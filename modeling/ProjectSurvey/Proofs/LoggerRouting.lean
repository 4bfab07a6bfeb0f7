import Mathlib.Data.List.Basic
import ProjectSurvey.Loggers
import ProjectSurvey.Proofs.FileContents

/-! Where messages go over whole runs of setting up and logging. The handlers are those of the last call
that set something up, and a file gets the lines of the messages for which it was the log file. -/

namespace ProjectSurvey

namespace Place

variable {place opened : Place} {location : Location}

/-- Opening a log file adds no byte to any file, and the file is there then. -/
theorem openFile_keeps {path : Path} (done : Diagnostics.openFile place path = .ok (opened, location)) :
    (∀ other, (opened.contentAt? other).getD [] = (place.contentAt? other).getD []) ∧
      (opened.contentAt? location).isSome := by
  obtain ⟨_, absolute, opening⟩ := Diagnostics.openFile_eq_ok done
  obtain ⟨there, others⟩ := openForAppending_contents absolute opening
  refine ⟨?_, by rw [there]; rfl⟩
  intro other
  by_cases here : location = other
  · rw [← here, there, Option.getD_some]
  · rw [others other here]

theorem append_contents (there : (place.contentAt? location).isSome) (bytes : Bytes) (other : Location) :
    ((place.append location bytes).contentAt? other).getD [] =
      (place.contentAt? other).getD [] ++ if location = other then bytes else [] := by
  obtain ⟨content, stands⟩ := Option.isSome_iff_exists.mp there
  split
  · next here =>
    subst here
    rw [append_content stands, stands, Option.getD_some, Option.getD_some]
  · next apart =>
    rw [(place.append_gains location bytes).contentAt? (by simpa using apart), List.append_nil]

theorem append_isSome (bytes : Bytes) {other : Location} (there : (place.contentAt? other).isSome) :
    ((place.append location bytes).contentAt? other).isSome := by
  by_cases here : location = other
  · subst here
    obtain ⟨content, stands⟩ := Option.isSome_iff_exists.mp there
    rw [append_content stands]
    rfl
  · rwa [(place.append_gains location bytes).contentAt? (by simpa using here)]

/-- The location of a log file that was asked for and could be opened. -/
def logFile? (place : Place) (file : Option Path) : Option Location :=
  file.bind fun path => (Diagnostics.openFile place path).toOption.map (·.2)

end Place

namespace Loggers

/-- Something that is done to the loggers. -/
inductive Action where
  | configure (verbose : Bool) (file : Option Path)
  | log (time : Text) (message : Message)

def act (state : Place × Loggers) : Action → Place × Loggers
  | .configure verbose file =>
    let (place, loggers, _) := state.2.configure state.1 verbose file
    (place, loggers)
  | .log time message => state.2.log time state.1 message

/-- What actions, the last one first, leave behind of a place in which nothing was set up before. -/
def after (known : List Text) (place : Place) : List Action → Place × Loggers
  | [] => (place, .unset known)
  | action :: earlier => act (after known place earlier) action

/-- What the last call set up: the level for whether it was to be verbose, and the log file that it was
given and opened. -/
def setting? (known : List Text) (place : Place) : List Action → Option Diagnostics
  | [] => none
  | .configure verbose file :: earlier =>
    some ⟨Diagnostics.levelFor verbose, (after known place earlier).1.logFile? file⟩
  | .log .. :: earlier => setting? known place earlier

/-- What a message is to add to the file at a location under a setting. -/
def due (setting : Option Diagnostics) (location : Location) (time : Text) (message : Message) : Text :=
  match setting with
  | none => []
  | some setting =>
    if setting.file = some location ∧ (setting.level.rank : Int) ≤ message.severity then message.line time
    else []

/-- What all messages of a run are to add to the file at a location, in their order. -/
def textFor (known : List Text) (place : Place) (location : Location) : List Action → Text
  | [] => []
  | .configure .. :: earlier => textFor known place location earlier
  | .log time message :: earlier =>
    textFor known place location earlier ++ due (setting? known place earlier) location time message

/-- What is due of a message to a file, if it can be encoded. -/
def written (setting : Option Diagnostics) (location : Location) (time : Text) (message : Message) : Text :=
  if Text.unencodable? (fun _ => true) (message.line time) = none then due setting location time message else []

def handlersFor (setting : Diagnostics) : List Handler :=
  ⟨.console, setting.level⟩ :: setting.file.toList.map (⟨.file ·, setting.level⟩)

/-- Whether loggers are set up as a setting says, or not at all. -/
structure AreSetUp (loggers : Loggers) (setting : Option Diagnostics) : Prop where
  level : loggers.level = setting.map Diagnostics.level
  propagates : loggers.propagates = setting.isNone
  handlers : loggers.handlers = setting.elim [] handlersFor

/-- Whether the logger for a part stands below the program's whatever others there are, so that the
line of a message can be written wherever there is a log file. -/
structure IsRouted (time : Text) (message : Message) : Prop where
  below : message.part.head? ≠ some '.'
  encodable : Text.unencodable? (fun _ => true) (message.line time) = none

/-- The least severity that is told under a setting. -/
def threshold (setting : Option Diagnostics) : Level :=
  (setting.map Diagnostics.level).getD .warning

/-- Whether a place and its loggers are as a setting has them: they are set up so, what has been decided
for loggers below the program's is what the level says, and the log file is there. -/
structure Serves (state : Place × Loggers) (setting : Option Diagnostics) : Prop where
  setUp : state.2.AreSetUp setting
  decided : ∀ part severity decision, part.head? ≠ some '.' →
    state.2.decided.lookup (loggerFor part, severity) = some decision →
      decision = decide (((threshold setting).rank : Int) ≤ severity)
  opened : ∀ location, setting.bind Diagnostics.file = some location →
    (state.1.contentAt? location).isSome

section

variable {known : List Text} {c : Char} {rest : Text}

private theorem climbs_skip : climbs known true (c :: rest) = climbs known false rest := rfl

private theorem climbs_plain (plain : c ≠ '.') : climbs known false (c :: rest) = climbs known false rest := by
  rw [climbs, if_neg plain]

private theorem climbs_top : climbs known false ('.' :: loggerName.reverse) = true := by
  rw [climbs, if_pos rfl, if_pos (List.reverse_reverse _)]

private theorem climbs_cut (other : rest.reverse ≠ loggerName) :
    climbs known false ('.' :: rest) = climbs known (!known.contains rest.reverse) rest := by
  rw [climbs, if_pos rfl, if_neg other]

end

private theorem climbs_part (known : List Text) {backwards : Text} (nonempty : backwards ≠ [])
    (first : backwards.getLast? ≠ some '.') (skips : Bool) :
    climbs known skips (backwards ++ '.' :: loggerName.reverse) = true := by
  induction backwards generalizing skips with
  | nil => exact absurd rfl nonempty
  | cons c rest ih =>
    rw [List.cons_append]
    by_cases last : rest = []
    · subst last
      cases skips with
      | true => rw [climbs_skip, List.nil_append, climbs_top]
      | false => rw [climbs_plain (by simpa using first), List.nil_append, climbs_top]
    · have goesOn := ih last (by rwa [List.getLast?_cons_of_ne_nil last] at first)
      cases skips with
      | true => rw [climbs_skip, goesOn]
      | false =>
        by_cases dot : c = '.'
        · subst dot
          have longer : (rest ++ '.' :: loggerName.reverse).reverse ≠ loggerName := by
            intro same
            simpa using congrArg List.length same
          rw [climbs_cut longer, goesOn]
        · rw [climbs_plain dot, goesOn]

/-- The logger for a part that does not begin with a dot stands below the program's. -/
theorem reaches_loggerFor (loggers : Loggers) {part : Text} (below : part.head? ≠ some '.') :
    loggers.reaches (loggerFor part) = true := by
  rw [reaches, loggerFor]
  split
  · rw [decide_eq_true rfl, Bool.true_or]
  · next nonempty =>
    have backwards : (loggerName ++ ".".toList ++ part).reverse = part.reverse ++ '.' :: loggerName.reverse := by
      simp
    rw [backwards, climbs_part loggers.known (by simpa using nonempty) (by simpa using below), Bool.or_true]

/-- Where the logger for a dot is there and the one for nothing is not, no logger for a part that begins
with a dot stands below the program's. -/
private theorem climbs_dotted {known : List Text} (dot : loggerName ++ "..".toList ∈ known)
    (nothing : loggerName ++ ".".toList ∉ known) (backwards : Text) (skips : Bool)
    (looks : backwards ≠ [] ∨ skips = false) :
    climbs known skips (backwards ++ '.' :: '.' :: loggerName.reverse) = false := by
  induction backwards generalizing skips with
  | nil =>
    obtain rfl : skips = false := looks.resolve_left (fun nonempty => nonempty rfl)
    have cut : ('.' :: loggerName.reverse).reverse = loggerName ++ ".".toList := rfl
    have absent : known.contains (loggerName ++ ".".toList) = false := by simpa using nothing
    rw [List.nil_append, climbs_cut (by rw [cut]; decide), cut, absent, Bool.not_false, climbs_skip]
    rfl
  | cons c rest ih =>
    rw [List.cons_append]
    cases skips with
    | true => rw [climbs_skip, ih _ (.inr rfl)]
    | false =>
      by_cases cuts : c = '.'
      · subst cuts
        have longer : (rest ++ '.' :: '.' :: loggerName.reverse).reverse ≠ loggerName := by
          intro same
          have lengths := congrArg List.length same
          simp at lengths
        rw [climbs_cut longer, ih]
        by_cases last : rest = []
        · subst last
          have there : known.contains (loggerName ++ "..".toList) = true := by simpa using dot
          exact .inr (congrArg not there)
        · exact .inl last
      · rw [climbs_plain cuts, ih _ (.inr rfl)]

theorem foldl_removeHandler (loggers : Loggers) :
    loggers.handlers.foldl removeHandler loggers = { loggers with handlers := [] } := by
  obtain ⟨level, propagates, handlers, known, decided⟩ := loggers
  induction handlers with
  | nil => rfl
  | cons handler rest ih =>
    have taken : removeHandler ⟨level, propagates, handler :: rest, known, decided⟩ handler =
        ⟨level, propagates, rest, known, decided⟩ := by
      rw [removeHandler, List.erase_cons_head]
    rw [List.foldl_cons, taken, ih]

/-- A call takes effect at once: what was set up and decided before is gone, no file has other bytes than
before, and the log file is there if it could be opened. -/
theorem configure_serves (state : Place × Loggers) (verbose : Bool) (file : Option Path) :
    Serves (act state (.configure verbose file)) (some ⟨Diagnostics.levelFor verbose, state.1.logFile? file⟩) ∧
      ∀ location, ((act state (.configure verbose file)).1.contentAt? location).getD [] =
        (state.1.contentAt? location).getD [] := by
  obtain ⟨place, loggers⟩ := state
  cases file with
  | none =>
    simp only [act, configure, foldl_removeHandler]
    exact ⟨⟨⟨rfl, rfl, rfl⟩, (fun _ _ _ _ found => by cases found), (fun _ here => by cases here)⟩, fun _ => trivial⟩
  | some path =>
    simp only [act, configure, foldl_removeHandler, Place.logFile?, Option.bind_some]
    cases done : Diagnostics.openFile place path with
    | error failure =>
      exact ⟨⟨⟨rfl, rfl, rfl⟩, (fun _ _ _ _ found => by cases found), (fun _ here => by cases here)⟩, fun _ => rfl⟩
    | ok result =>
      obtain ⟨opened, location⟩ := result
      obtain ⟨keeps, there⟩ := Place.openFile_keeps done
      exact ⟨⟨⟨rfl, rfl, rfl⟩, (fun _ _ _ _ found => by cases found), fun _ here => Option.some.inj here ▸ there⟩,
        keeps⟩

theorem settle_snd (loggers : Loggers) (name : Text) (severity : Int) :
    ∃ decided, (loggers.settle name severity).2 = { loggers with decided := decided } := by
  rw [settle]
  split
  · exact ⟨loggers.decided, rfl⟩
  · exact ⟨_, rfl⟩

theorem log_fst (loggers : Loggers) (time : Text) (place : Place) (message : Message) :
    (loggers.log time place message).1 =
      if ((loggers.ask (loggerFor message.part)).settle (loggerFor message.part) message.severity).1 &&
        (loggers.ask (loggerFor message.part)).reaches (loggerFor message.part)
      then loggers.handlers.foldl (Handler.take time message) place else place := by
  obtain ⟨decided, same⟩ :=
    settle_snd (loggers.ask (loggerFor message.part)) (loggerFor message.part) message.severity
  simp only [log, same, apply_ite Prod.fst]
  rfl

theorem log_snd (loggers : Loggers) (time : Text) (place : Place) (message : Message) :
    (loggers.log time place message).2 =
      ((loggers.ask (loggerFor message.part)).settle (loggerFor message.part) message.severity).2 := by
  simp only [log, apply_ite Prod.snd, ite_self]

/-- What the handlers for a setting make of a message: the console none of the files, and the log file,
if there is one, its line. -/
theorem foldl_take (setting : Option Diagnostics) (time : Text) (message : Message) (place : Place) :
    (setting.elim [] handlersFor).foldl (Handler.take time message) place =
      match setting with
      | some ⟨level, some location⟩ => Handler.take time message place ⟨.file location, level⟩
      | _ => place := by
  obtain _ | ⟨level, _ | location⟩ := setting <;> rfl

theorem debug_le_rank (level : Level) : Level.debug.rank ≤ level.rank := by
  cases level <;> decide

theorem take_low {time : Text} {message : Message} (low : message.severity < Level.debug.rank) (place : Place)
    (handler : Handler) : handler.take time message place = place := by
  have least := debug_le_rank handler.level
  have refused : ¬ (handler.level.rank : Int) ≤ message.severity := by omega
  simp only [Handler.take, refused, false_and, ite_false]
  split <;> rfl

theorem take_unencodable {time : Text} {message : Message}
    (refused : Text.unencodable? (fun _ => true) (message.line time) ≠ none) (place : Place) (handler : Handler) :
    handler.take time message place = place := by
  simp only [Handler.take, refused, and_false, ite_false]
  split <;> rfl

theorem take_isSome (time : Text) (message : Message) {place : Place} {location : Location}
    (there : (place.contentAt? location).isSome) (handler : Handler) :
    ((handler.take time message place).contentAt? location).isSome := by
  simp only [Handler.take]
  split
  · exact there
  · split
    · exact Place.append_isSome _ there
    · exact there

theorem foldl_take_isSome (time : Text) (message : Message) {place : Place} {location : Location}
    (there : (place.contentAt? location).isSome) (handlers : List Handler) :
    ((handlers.foldl (Handler.take time message) place).contentAt? location).isSome := by
  induction handlers generalizing place with
  | nil => exact there
  | cons handler rest ih => exact ih (take_isSome time message there handler)

section

variable {state : Place × Loggers} {setting : Option Diagnostics}

theorem Serves.levelOf (serves : Serves state setting) (name : Text) {part : Text}
    (below : part.head? ≠ some '.') : (state.2.ask name).levelOf (loggerFor part) = threshold setting := by
  rw [Loggers.levelOf, if_pos (reaches_loggerFor _ below)]
  exact congrArg (·.getD Level.warning) serves.setUp.level

theorem Serves.settle_decided (serves : Serves state setting) (name : Text) (given : Int) {part : Text}
    (below : part.head? ≠ some '.') {severity : Int} {decision : Bool}
    (held : ((state.2.ask name).settle name given).2.decided.lookup (loggerFor part, severity) = some decision) :
    decision = decide (((threshold setting).rank : Int) ≤ severity) := by
  rw [settle] at held
  split at held
  · exact serves.decided _ _ _ below held
  · simp only [List.lookup_cons] at held
    split at held
    · next same =>
      obtain ⟨rfl, rfl⟩ := Prod.mk.inj (beq_iff_eq.mp same)
      rw [serves.levelOf _ below] at held
      exact (Option.some.inj held).symm
    · exact serves.decided _ _ _ below held

/-- What is decided for a logger below the program's is what the level of the setting says. -/
theorem Serves.settle_fst (serves : Serves state setting) {part : Text} (below : part.head? ≠ some '.')
    (severity : Int) : ((state.2.ask (loggerFor part)).settle (loggerFor part) severity).1 =
      decide (((threshold setting).rank : Int) ≤ severity) := by
  rw [settle]
  split
  · next decision held => exact serves.decided _ _ _ below held
  · rw [serves.levelOf _ below]

/-- Whatever is logged, the setting stays. -/
theorem Serves.log (serves : Serves state setting) (time : Text) (message : Message) :
    Serves (act state (.log time message)) setting := by
  refine ⟨?_, ?_, ?_⟩
  · obtain ⟨decided, same⟩ :=
      settle_snd (state.2.ask (loggerFor message.part)) (loggerFor message.part) message.severity
    rw [act, log_snd, same]
    exact ⟨serves.setUp.level, serves.setUp.propagates, serves.setUp.handlers⟩
  · intro part severity decision below held
    rw [act, log_snd] at held
    exact serves.settle_decided _ _ below held
  · intro location here
    rw [act, log_fst]
    split
    · exact foldl_take_isSome time message (serves.opened location here) _
    · exact serves.opened location here

/-- A message of a logger below the program's adds what is due to each file, if that can be encoded. -/
theorem Serves.log_below (serves : Serves state setting) (time : Text) {message : Message}
    (below : message.part.head? ≠ some '.') (location : Location) :
    ((act state (.log time message)).1.contentAt? location).getD [] =
      (state.1.contentAt? location).getD [] ++ Utf8.encode (written setting location time message) := by
  have nothing (bytes : Bytes) : bytes ++ Utf8.encode [] = bytes := List.append_nil bytes
  rw [written, act, log_fst, serves.setUp.handlers, foldl_take, reaches_loggerFor _ below, Bool.and_true,
    serves.settle_fst below]
  obtain _ | ⟨level, _ | file⟩ := setting
  · simp only [due, ite_self, nothing]
  · simp only [due, reduceCtorEq, false_and, ite_false, ite_self, nothing]
  · by_cases grave : (level.rank : Int) ≤ message.severity
    · have told : ((threshold (some ⟨level, some file⟩)).rank : Int) ≤ message.severity := grave
      simp only [told, decide_true, ite_true, Handler.take, grave, true_and, and_true, due, Option.some.injEq]
      split
      · rw [Place.append_contents (serves.opened file rfl)]
        split <;> rfl
      · exact (nothing _).symm
    · have kept : ¬ ((threshold (some ⟨level, some file⟩)).rank : Int) ≤ message.severity := grave
      simp only [kept, decide_false, Bool.false_eq_true, ite_false, due, grave, and_false, ite_self, nothing]

/-- The line of a message that is routed comes to the end of the log file, and to no other. -/
theorem Serves.log_contents (serves : Serves state setting) {time : Text} {message : Message}
    (routed : message.severity < Level.debug.rank ∨ IsRouted time message) (location : Location) :
    ((act state (.log time message)).1.contentAt? location).getD [] =
      (state.1.contentAt? location).getD [] ++ Utf8.encode (due setting location time message) := by
  rcases routed with low | routed
  · have kept : (act state (.log time message)).1 = state.1 := by
      rw [act, log_fst, List.foldl_fixed' (take_low low state.1), ite_self]
    have nothing : due setting location time message = [] := by
      unfold due
      split
      · rfl
      · next setting =>
        have least := debug_le_rank setting.level
        rw [if_neg (by omega)]
    rw [kept, nothing]
    exact (List.append_nil _).symm
  · rw [serves.log_below time routed.below, written, if_pos routed.encodable]

end

/-- The logger for a part that begins with a dot does not stand below the program's once the one for a
dot has been asked for. -/
theorem not_reaches_loggerFor {loggers : Loggers} (dot : loggerFor ".".toList ∈ loggers.known)
    (nothing : loggerName ++ ".".toList ∉ loggers.known) {part : Text} (dotted : part.head? = some '.') :
    (loggers.ask (loggerFor part)).reaches (loggerFor part) = false := by
  obtain ⟨rest, rfl⟩ := List.head?_eq_some_iff.mp dotted
  have name : loggerFor ('.' :: rest) = loggerName ++ '.' :: '.' :: rest := rfl
  have dot' : loggerName ++ "..".toList ∈ (loggers.ask (loggerFor ('.' :: rest))).known :=
    List.mem_insert_of_mem dot
  have nothing' : loggerName ++ ".".toList ∉ (loggers.ask (loggerFor ('.' :: rest))).known := by
    intro there
    rcases List.mem_insert_iff.mp there with same | before
    · rw [name] at same
      simpa using congrArg List.length same
    · exact nothing before
  have backwards : (loggerFor ('.' :: rest)).reverse = rest.reverse ++ '.' :: '.' :: loggerName.reverse := by
    rw [name]
    simp
  have other : loggerFor ('.' :: rest) ≠ loggerName := by
    intro same
    rw [name] at same
    simpa using congrArg List.length same
  rw [reaches, backwards, climbs_dotted dot' nothing' _ _ (.inr rfl), decide_eq_false other, Bool.or_false]

/-- A message that is not routed comes to no file then. -/
theorem log_not_routed (state : Place × Loggers) (dot : loggerFor ".".toList ∈ state.2.known)
    (nothing : loggerName ++ ".".toList ∉ state.2.known) {time : Text} {message : Message}
    (lost : ¬ IsRouted time message) : (act state (.log time message)).1 = state.1 := by
  rw [act, log_fst]
  by_cases dotted : message.part.head? = some '.'
  · rw [not_reaches_loggerFor dot nothing dotted, Bool.and_false, if_neg Bool.false_ne_true]
  · have refused : Text.unencodable? (fun _ => true) (message.line time) ≠ none :=
      fun encodable => lost ⟨dotted, encodable⟩
    rw [List.foldl_fixed' (take_unencodable refused state.1), ite_self]

section

variable (known : List Text) (place : Place)

theorem serves_after (history : List Action) :
    Serves (after known place history) (setting? known place history) := by
  induction history with
  | nil => exact ⟨⟨rfl, rfl, rfl⟩, nofun, nofun⟩
  | cons action earlier ih =>
    cases action with
    | configure verbose file => exact (configure_serves _ verbose file).1
    | log time message => exact ih.log time message

/-- Over a run of which every message is routed, a file gets exactly the lines that are due. -/
theorem after_contents {history : List Action}
    (routed : ∀ time message, Action.log time message ∈ history →
      message.severity < Level.debug.rank ∨ IsRouted time message) (location : Location) :
    ((after known place history).1.contentAt? location).getD [] =
      (place.contentAt? location).getD [] ++ Utf8.encode (textFor known place location history) := by
  induction history with
  | nil => exact (List.append_nil _).symm
  | cons action earlier ih =>
    have before := ih fun time message logged => routed time message (List.mem_cons_of_mem _ logged)
    cases action with
    | configure verbose file => exact ((configure_serves _ verbose file).2 location).trans before
    | log time message =>
      have last := routed time message List.mem_cons_self
      rw [after, (serves_after known place earlier).log_contents last, before, textFor]
      simp only [Utf8.encode, List.flatMap_append, List.append_assoc]

end

/-- Whatever was done before, a message adds what is due to each file: this holds of the messages that no
setting tells, and of those that are routed. -/
theorem log_contents_iff (time : Text) (message : Message) :
    (∀ known place history location,
      ((after known place (.log time message :: history)).1.contentAt? location).getD [] =
        ((after known place history).1.contentAt? location).getD [] ++
          Utf8.encode (due (setting? known place history) location time message)) ↔
      message.severity < Level.debug.rank ∨ IsRouted time message := by
  constructor
  · intro always
    by_contra neither
    obtain ⟨grave, lost⟩ := not_or.mp neither
    let place : Place := ⟨.directory [], []⟩
    let history : List Action := [.configure true (some (.ofText "f")), .log [] ⟨".".toList, 10, []⟩]
    have kept := log_not_routed (after [] place history) (by decide) (by decide) lost
    have added := always [] place history ["f".toList]
    have setting : setting? [] place history = some ⟨.debug, some ["f".toList]⟩ := rfl
    have told : (Level.debug.rank : Int) ≤ message.severity := Int.not_lt.mp grave
    rw [after, kept, setting, due, if_pos ⟨rfl, told⟩, List.self_eq_append_right, Utf8.encode,
      List.flatMap_eq_nil_iff] at added
    have feed : '\n' ∈ message.line time := List.mem_append_right _ List.mem_cons_self
    exact absurd (added '\n' feed) (by decide)
  · intro routed known place history location
    exact (serves_after known place history).log_contents routed location

theorem line_message (time : Text) (note : Note) : note.message.line time = note.line time := by
  obtain ⟨part, level, text⟩ := note
  cases level <;> rfl

theorem written_note {setting : Diagnostics} {location : Location} (file : setting.file = some location)
    (time : Text) (note : Note) : written (some setting) location time note.message =
      if setting.tells note = true ∧ Text.unencodable? (fun _ => true) (note.line time) = none
        then note.line time else [] := by
  have severity : note.message.severity = note.level.rank := rfl
  simp only [written, due, line_message, severity, file, Diagnostics.tells, decide_eq_true_eq, true_and,
    Int.ofNat_le, ← ite_and, and_comm]

theorem flatten_written {setting : Diagnostics} {location : Location} (file : setting.file = some location)
    (time : Text) (notes : List Note) :
    (((notes.filter setting.tells).map (·.line time)).filter fun line =>
        (Text.unencodable? (fun _ => true) line).isNone).flatten =
      notes.flatMap fun note => written (some setting) location time note.message := by
  induction notes with
  | nil => rfl
  | cons note notes ih =>
    rw [List.flatMap_cons, ← ih, written_note file]
    by_cases told : setting.tells note = true <;>
      by_cases encodable : Text.unencodable? (fun _ => true) (note.line time) = none <;>
      simp [told, encodable]

theorem detached_of_opened {setting : Diagnostics} {place : Place}
    (opened : ∀ location, setting.file = some location → (place.contentAt? location).isSome) :
    setting.detached place = setting := by
  obtain ⟨level, file⟩ := setting
  cases file with
  | none => rfl
  | some location =>
    obtain ⟨content, stands⟩ := Option.isSome_iff_exists.mp (opened location rfl)
    rw [Diagnostics.detached, Option.bind_some, Place.at?_of_contentAt? stands]

/-- What telling messages under a setting adds to the files, message by message. -/
theorem tell_contents (setting : Diagnostics) (time : Text) {place : Place}
    (opened : ∀ location, setting.file = some location → (place.contentAt? location).isSome) (notes : List Note)
    (location : Location) : ((setting.tell time place notes).contentAt? location).getD [] =
      (place.contentAt? location).getD [] ++
        Utf8.encode (notes.flatMap fun note => written (some setting) location time note.message) := by
  have none_written (apart : setting.file ≠ some location) :
      (notes.flatMap fun note => written (some setting) location time note.message) = [] := by
    simp [written, due, apart]
  cases file : setting.file with
  | none =>
    rw [none_written (by simp [file]), Diagnostics.tell, detached_of_opened opened, file]
    exact (List.append_nil _).symm
  | some there =>
    simp only [Diagnostics.tell, detached_of_opened opened, file]
    rw [Place.append_contents (opened there file)]
    split
    · next here =>
      subst here
      rw [flatten_written file]
    · next apart =>
      rw [none_written (by simpa [file] using apart)]
      rfl

/-- Messages that the program's own parts log one after another come to the files as they do when they
are told together. -/
theorem Serves.tells {setting : Diagnostics} (notes : List Note) (own : ∀ note ∈ notes, note.part.head? ≠ some '.')
    (time : Text) {state : Place × Loggers} (serves : Serves state (some setting)) (location : Location) :
    ((notes.foldl (fun state note => act state (.log time note.message)) state).1.contentAt? location).getD [] =
      ((setting.tell time state.1 notes).contentAt? location).getD [] := by
  rw [tell_contents setting time serves.opened]
  induction notes generalizing state with
  | nil => exact (List.append_nil _).symm
  | cons note notes ih =>
    obtain ⟨first, others⟩ := List.forall_mem_cons.mp own
    rw [List.foldl_cons, ih others (serves.log time note.message), serves.log_below time first, List.append_assoc]
    simp only [List.flatMap_cons, Utf8.encode, List.flatMap_append]

/-- The last call decides: whatever was set up and logged before, the handlers, the level and whether
messages go further are those of its setting; over a run whose messages are routed every file gets exactly
the lines that are due to it, in their order; and it is the routed messages, beside those that no setting
tells, of which this holds whatever else is done. -/
theorem last_call_decides (known : List Text) (place : Place) (history : List Action) (time : Text)
    (message : Message) :
    AreSetUp (after known place history).2 (setting? known place history) ∧
    ((∀ time message, Action.log time message ∈ history →
        message.severity < Level.debug.rank ∨ IsRouted time message) →
      ∀ location, ((after known place history).1.contentAt? location).getD [] =
        (place.contentAt? location).getD [] ++ Utf8.encode (textFor known place location history)) ∧
    ((∀ known place history location,
        ((after known place (.log time message :: history)).1.contentAt? location).getD [] =
          ((after known place history).1.contentAt? location).getD [] ++
            Utf8.encode (due (setting? known place history) location time message)) ↔
      message.severity < Level.debug.rank ∨ IsRouted time message) :=
  ⟨(serves_after known place history).setUp, fun routed => after_contents known place routed,
    log_contents_iff time message⟩

/-- A call that fails to open its file leaves the console alone, and a message then comes to no file. -/
theorem last_call_decides_unopened :
    let place : Place := ⟨.directory [("g".toList, .file (Utf8.encode "old\n"))], []⟩
    let history : List Action := [.log "t" ⟨"usage", 30, "n"⟩, .configure false (some (.ofText "missing/g")),
      .log "t" ⟨[], 10, "m"⟩, .configure true (some (.ofText "g"))]
    (∀ time message, Action.log time message ∈ history →
      message.severity < Level.debug.rank ∨ IsRouted time message) ∧
    (after [] place history).2.handlers = [⟨.console, .info⟩] ∧
    ((after [] place history).1.contentAt? ["g".toList]).getD [] =
      Utf8.encode "old\nt DEBUG project_guard: m\n" := by
  intro place history
  have routed : ∀ time message, Action.log time message ∈ history →
      message.severity < Level.debug.rank ∨ IsRouted time message := by
    intro time message logged
    simp only [history, List.mem_cons, Action.log.injEq, reduceCtorEq, false_or, List.not_mem_nil, or_false] at logged
    rcases logged with ⟨rfl, rfl⟩ | ⟨rfl, rfl⟩
    · exact .inr ⟨by decide, by decide⟩
    · exact .inr ⟨by decide, by decide⟩
  have setting : setting? [] place history = some ⟨.info, none⟩ := by decide
  have text : textFor [] place ["g".toList] history = "t DEBUG project_guard: m\n".toList := by decide
  obtain ⟨setUp, contents, -⟩ := last_call_decides [] place history [] ⟨[], 0, []⟩
  have handlers := setUp.handlers
  have content := contents routed ["g".toList]
  rw [setting] at handlers
  rw [text] at content
  exact ⟨routed, handlers, content⟩

/-- The logger for a part that begins with a dot stands beside the program's, not below it: what it is
given comes to no handler. -/
theorem lost_below_dot :
    let place : Place := ⟨.directory [], []⟩
    let history : List Action := [.log "t" ⟨".x", 20, "m"⟩, .configure false (some (.ofText "g.log"))]
    textFor [] place ["g.log".toList] history = "t INFO project_guard..x: m\n".toList ∧
      (after [] place history).1.contentAt? ["g.log".toList] = some [] := by
  decide

end Loggers

end ProjectSurvey
