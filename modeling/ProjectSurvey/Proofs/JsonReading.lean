import Mathlib.Data.List.Forall2
import ProjectSurvey.Proofs.JsonFields
import ProjectSurvey.Proofs.JsonWriting

/-! What is written for a JSON value is read back: on one line or with each item on a line of its own,
only texts and floating-point numbers may come back in another form. -/

namespace ProjectSurvey.Json

mutual

/-- A value as it is read back: halves of surrogate pairs are put together, and floating-point numbers
are those that their digits stand for. -/
def reread : Json → Json
  | .null => .null
  | .bool value => .bool value
  | .int value => .int value
  | .float value => .float value.reread
  | .str value => .str value.rejoined
  | .array items => .array (rereadItems items)
  | .object fields => .object (rereadFields fields)
  termination_by structural json => json

def rereadItems : List Json → List Json
  | [] => []
  | item :: items => item.reread :: rereadItems items
  termination_by structural items => items

def rereadFields : List (Text × Json) → List (Text × Json)
  | [] => []
  | (name, value) :: fields => (name.rejoined, value.reread) :: rereadFields fields
  termination_by structural fields => fields

end

mutual

/-- A value whose objects have had their fields set one after another: of two with one name the last
counts. -/
def merged : Json → Json
  | .array items => .array (mergedItems items)
  | .object fields => .object (setFields [] (mergedFields fields))
  | .null => .null
  | .bool value => .bool value
  | .int value => .int value
  | .float value => .float value
  | .str value => .str value
  termination_by structural json => json

def mergedItems : List Json → List Json
  | [] => []
  | item :: items => item.merged :: mergedItems items
  termination_by structural items => items

def mergedFields : List (Text × Json) → List (Text × Json)
  | [] => []
  | (name, value) :: fields => (name, value.merged) :: mergedFields fields
  termination_by structural fields => fields

end

/-- Whether a value is within the bounds of what is read: it is nested at most `depth` deep, and no whole
number in it has more digits than are read. -/
inductive IsBounded : (depth : Nat) → Json → Prop
  | null {depth} : IsBounded depth .null
  | bool {depth value} : IsBounded depth (.bool value)
  | int {depth value} : (Text.ofNat value.natAbs).length ≤ digitLimit → IsBounded depth (.int value)
  | float {depth value} : IsBounded depth (.float value)
  | str {depth value} : IsBounded depth (.str value)
  | array {depth items} : (∀ item ∈ items, IsBounded depth item) → IsBounded (depth + 1) (.array items)
  | object {depth fields} : (∀ field ∈ fields, IsBounded depth field.2) →
      IsBounded (depth + 1) (.object fields)

/-- Whether a value can be read back: it is nested at most `depth` deep, no object in it has two fields
that are read under one name, and no whole number has more digits than are read. -/
inductive IsReadable : (depth : Nat) → Json → Prop
  | null {depth} : IsReadable depth .null
  | bool {depth value} : IsReadable depth (.bool value)
  | int {depth value} : (Text.ofNat value.natAbs).length ≤ digitLimit → IsReadable depth (.int value)
  | float {depth value} : IsReadable depth (.float value)
  | str {depth value} : IsReadable depth (.str value)
  | array {depth items} : (∀ item ∈ items, IsReadable depth item) →
      IsReadable (depth + 1) (.array items)
  | object {depth fields} : (fields.map fun field => field.1.rejoined).Nodup →
      (∀ field ∈ fields, IsReadable depth field.2) → IsReadable (depth + 1) (.object fields)

/-- Whether a text, wherever a value may stand, is read as a value that is nested at most `depth`
deep. -/
structure Reads (depth : Nat) (text : Text) (json : Json) : Prop where
  starts : ∃ c rest, text = c :: rest ∧ isSpace c = false ∧ c ≠ ']' ∧ c ≠ '\x7d'
  reads : ∀ rest, Ends rest → value depth (text ++ rest) = .ok (json, rest)

theorem skipSpace_append {gap : Text} (spaces : ∀ c ∈ gap, isSpace c = true) (text : Text) :
    skipSpace (gap ++ text) = skipSpace text := by
  rw [skipSpace, List.dropWhile_append_of_pos spaces, skipSpace]

theorem skipSpace_cons {c : Char} (other : isSpace c = false) (text : Text) :
    skipSpace (c :: text) = c :: text := by
  simp [skipSpace, other]

theorem Reads.skipSpace {depth : Nat} {text : Text} {json : Json} (read : Reads depth text json)
    (rest : Text) : Json.skipSpace (text ++ rest) = text ++ rest := by
  obtain ⟨c, more, rfl, other, _⟩ := read.starts
  exact skipSpace_cons other _

private theorem join_cons (separator text : Text) (texts : List Text) :
    ∃ more, Text.join separator (text :: texts) = text ++ more := by
  cases texts with
  | nil => exact ⟨[], by simp [Text.join]⟩
  | cons next texts => exact ⟨_, by rw [Text.join, List.intercalate_cons_cons, List.append_assoc]⟩

private theorem join_cons_cons (separator text next rest : Text) (texts : List Text) :
    Text.join separator (text :: next :: texts) ++ rest =
      text ++ (separator ++ (Text.join separator (next :: texts) ++ rest)) := by
  simp [Text.join, List.intercalate_cons_cons]

section Steps

variable {read : Text → Except Stop (Json × Text)} {fuel : Nat} {text more rest : Text} {item : Json}

theorem itemsOnto_last {done : List Json} (found : read text = .ok (item, more))
    (closes : skipSpace more = ']' :: rest) :
    itemsOnto read (fuel + 1) done text = .ok (.array (item :: done).reverse, rest) := by
  simp only [itemsOnto, found, bind, Except.bind, closes]

theorem itemsOnto_next {done : List Json} (found : read text = .ok (item, more))
    (goesOn : skipSpace more = ',' :: rest) :
    itemsOnto read (fuel + 1) done text = itemsOnto read fuel (item :: done) (skipSpace rest) := by
  simp only [itemsOnto, found, bind, Except.bind, goesOn]

private theorem field_name (name : Text) :
    quoted name ++ ": " ++ text = '"' :: (name.flatMap escapeChar ++ '"' :: ':' :: ' ' :: text) := by
  simp [quoted]

theorem fieldsOnto_last {done : List (Text × Json)} {name : Text} (starts : skipSpace text = text)
    (found : read text = .ok (item, more)) (closes : skipSpace more = '\x7d' :: rest) :
    fieldsOnto read (fuel + 1) done (quoted name ++ ": " ++ text) =
      .ok (.object (setField done name.rejoined item), rest) := by
  have blank : skipSpace (' ' :: text) = text := starts
  rw [field_name]
  simp only [fieldsOnto, stringOnto_quoted, bind, Except.bind, List.reverse_nil, List.nil_append,
    skipSpace_cons (show isSpace ':' = false from rfl), blank, found, closes]

theorem fieldsOnto_next {done : List (Text × Json)} {name : Text} (starts : skipSpace text = text)
    (found : read text = .ok (item, more)) (goesOn : skipSpace more = ',' :: rest) :
    fieldsOnto read (fuel + 1) done (quoted name ++ ": " ++ text) =
      fieldsOnto read fuel (setField done name.rejoined item) (skipSpace rest) := by
  have blank : skipSpace (' ' :: text) = text := starts
  rw [field_name]
  simp only [fieldsOnto, stringOnto_quoted, bind, Except.bind, List.reverse_nil, List.nil_append,
    skipSpace_cons (show isSpace ':' = false from rfl), blank, found, goesOn]

end Steps

/-- What stands around items: space after each comma, and before the closing bracket. -/
structure Spacing where
  gap : Text
  last : Text

/-- Whether only space stands around items; a line feed begins what stands before the bracket. -/
structure Spacing.IsSpace (spacing : Spacing) : Prop where
  gap : ∀ c ∈ spacing.gap, Json.isSpace c = true
  last : ∀ c ∈ spacing.last, Json.isSpace c = true
  breaks : ∀ c ∈ spacing.last.head?, c = '\n'

theorem ends_comma (text : Text) : Ends (',' :: text) := by
  rintro c ⟨⟩
  simp

section Opening

variable {depth : Nat} {text body rest : Text} {json : Json}

theorem value_array (skipped : skipSpace text = skipSpace body)
    (starts : ∃ c more, body = c :: more ∧ isSpace c = false ∧ c ≠ ']')
    (read : itemsOnto (value depth) (text.length + 2) [] body = .ok (json, rest)) :
    value (depth + 1) ('[' :: text) = .ok (json, rest) := by
  obtain ⟨c, more, rfl, other, notClose⟩ := starts
  rw [value.eq_def]
  simp only [skipped, skipSpace_cons other]
  split
  · next same => exact (notClose (List.cons.inj same).1).elim
  · exact read

theorem value_object (skipped : skipSpace text = skipSpace body)
    (starts : ∃ c more, body = c :: more ∧ isSpace c = false ∧ c ≠ '\x7d')
    (read : fieldsOnto (value depth) (text.length + 2) [] body = .ok (json, rest)) :
    value (depth + 1) ('\x7b' :: text) = .ok (json, rest) := by
  obtain ⟨c, more, rfl, other, notClose⟩ := starts
  rw [value.eq_def]
  simp only [skipped, skipSpace_cons other]
  split
  · next same => exact (notClose (List.cons.inj same).1).elim
  · exact read

end Opening

section Containers

variable {depth : Nat} {spacing : Spacing} (spaces : spacing.IsSpace) (rest : Text)

include spaces

theorem Spacing.IsSpace.ends {close : Char} (closes : close = ']' ∨ close = '\x7d') :
    Ends (spacing.last ++ close :: rest) := by
  intro c first
  rw [List.head?_append] at first
  cases last : spacing.last.head? with
  | some d =>
    rw [last] at first
    cases first
    rw [spaces.breaks c last]
    simp
  | none =>
    rw [last] at first
    cases first
    rcases closes with rfl | rfl <;> simp

theorem itemsOnto_join {texts : List Text} {items : List Json}
    (read : List.Forall₂ (Reads depth) texts items) (nonempty : texts ≠ []) {fuel : Nat}
    (enough : texts.length ≤ fuel) (done : List Json) :
    itemsOnto (value depth) fuel done
        (Text.join (',' :: spacing.gap) texts ++ (spacing.last ++ ']' :: rest)) =
      .ok (.array (done.reverse ++ items), rest) := by
  induction read generalizing fuel done with
  | nil => exact (nonempty rfl).elim
  | @cons text item texts items first others ih =>
    obtain ⟨fuel, rfl⟩ : ∃ less, fuel = less + 1 := ⟨fuel - 1, by simp at enough; omega⟩
    cases others with
    | nil =>
      have closes : skipSpace (spacing.last ++ ']' :: rest) = ']' :: rest := by
        rw [skipSpace_append spaces.last, skipSpace_cons rfl]
      have found := first.reads _ (spaces.ends rest (.inl rfl))
      rw [Text.join, List.intercalate_singleton, itemsOnto_last found closes, List.reverse_cons]
    | @cons next _ texts _ second others =>
      obtain ⟨more, starts⟩ := join_cons (',' :: spacing.gap) next texts
      have found := first.reads _ (ends_comma (spacing.gap ++
        (Text.join (',' :: spacing.gap) (next :: texts) ++ (spacing.last ++ ']' :: rest))))
      rw [join_cons_cons, List.cons_append, itemsOnto_next found (skipSpace_cons rfl _),
        skipSpace_append spaces.gap, starts, List.append_assoc, second.skipSpace, ← List.append_assoc,
        ← starts, ih (by simp) (by simpa using enough)]
      simp

def ReadsField (depth : Nat) (text : Text) (field : Text × Json) : Prop :=
  ∃ name written, text = quoted name ++ ": " ++ written ∧ field.1 = name.rejoined ∧
    Reads depth written field.2

omit spaces in
theorem ReadsField.skipSpace {text : Text} {field : Text × Json} (read : ReadsField depth text field) :
    Json.skipSpace (text ++ rest) = text ++ rest := by
  obtain ⟨name, written, rfl, _⟩ := read
  rw [List.append_assoc, List.append_assoc, quoted]
  exact skipSpace_cons rfl _

theorem fieldsOnto_join {texts : List Text} {fields : List (Text × Json)}
    (read : List.Forall₂ (ReadsField depth) texts fields) (nonempty : texts ≠ []) {fuel : Nat}
    (enough : texts.length ≤ fuel) (done : List (Text × Json)) :
    fieldsOnto (value depth) fuel done
        (Text.join (',' :: spacing.gap) texts ++ (spacing.last ++ '\x7d' :: rest)) =
      .ok (.object (setFields done fields), rest) := by
  induction read generalizing fuel done with
  | nil => exact (nonempty rfl).elim
  | @cons text field texts fields first others ih =>
    obtain ⟨fuel, rfl⟩ : ∃ less, fuel = less + 1 := ⟨fuel - 1, by simp at enough; omega⟩
    obtain ⟨name, written, rfl, same, first⟩ := first
    cases others with
    | nil =>
      have closes : skipSpace (spacing.last ++ '\x7d' :: rest) = '\x7d' :: rest := by
        rw [skipSpace_append spaces.last, skipSpace_cons rfl]
      have found := first.reads _ (spaces.ends rest (.inr rfl))
      rw [Text.join, List.intercalate_singleton, List.append_assoc,
        fieldsOnto_last (first.skipSpace _) found closes, ← same]
      rfl
    | @cons next other texts fields second others =>
      obtain ⟨more, starts⟩ := join_cons (',' :: spacing.gap) next texts
      have found := first.reads _ (ends_comma (spacing.gap ++
        (Text.join (',' :: spacing.gap) (next :: texts) ++ (spacing.last ++ '\x7d' :: rest))))
      rw [join_cons_cons, List.cons_append, List.append_assoc,
        fieldsOnto_next (first.skipSpace _) found (skipSpace_cons rfl _), skipSpace_append spaces.gap,
        starts, List.append_assoc, second.skipSpace, ← List.append_assoc, ← starts, ← same,
        ih (by simp) (by simpa using enough)]
      rfl

omit spaces in
private theorem length_le_join (c : Char) (gap : Text) (texts : List Text) :
    texts.length ≤ (Text.join (c :: gap) texts).length + 1 := by
  induction texts with
  | nil => exact Nat.zero_le _
  | cons text texts ih =>
    cases texts with
    | nil => simp
    | cons next texts =>
      rw [Text.join, List.intercalate_cons_cons, ← Text.join]
      simp only [List.length_append, List.length_cons] at ih ⊢
      omega

theorem reads_array {before : Text} (beforeSpaces : ∀ c ∈ before, Json.isSpace c = true)
    {texts : List Text} {items : List Json} (read : List.Forall₂ (Reads depth) texts items)
    (nonempty : texts ≠ []) :
    Reads (depth + 1)
      ('[' :: before ++ Text.join (',' :: spacing.gap) texts ++ spacing.last ++ [']'])
      (.array items) := by
  refine ⟨⟨_, _, rfl, rfl, by decide, by decide⟩, ?_⟩
  intro rest _
  have enough := length_le_join ',' spacing.gap texts
  have written : '[' :: before ++ Text.join (',' :: spacing.gap) texts ++ spacing.last ++ [']'] ++ rest =
      '[' :: (before ++ (Text.join (',' :: spacing.gap) texts ++ (spacing.last ++ ']' :: rest))) := by
    simp
  rw [written]
  refine value_array (skipSpace_append beforeSpaces _) ?_
    (itemsOnto_join spaces rest read nonempty ?_ [])
  · cases read with
    | nil => exact (nonempty rfl).elim
    | @cons text item texts items first others =>
      obtain ⟨more, starts⟩ := join_cons (',' :: spacing.gap) text texts
      obtain ⟨c, tail, rfl, other, notClose, _⟩ := first.starts
      rw [starts, List.append_assoc]
      exact ⟨c, _, rfl, other, notClose⟩
  · simp only [List.length_append] at enough ⊢
    omega

/-- Fields between braces are read as an object, one after another. -/
theorem reads_object {before : Text} (beforeSpaces : ∀ c ∈ before, Json.isSpace c = true)
    {texts : List Text} {fields : List (Text × Json)}
    (read : List.Forall₂ (ReadsField depth) texts fields) (nonempty : texts ≠ []) :
    Reads (depth + 1)
      ('\x7b' :: before ++ Text.join (',' :: spacing.gap) texts ++ spacing.last ++ ['\x7d'])
      (.object (setFields [] fields)) := by
  refine ⟨⟨_, _, rfl, rfl, by decide, by decide⟩, ?_⟩
  intro rest _
  have enough := length_le_join ',' spacing.gap texts
  have written : '\x7b' :: before ++ Text.join (',' :: spacing.gap) texts ++ spacing.last ++ ['\x7d'] ++
      rest = '\x7b' ::
        (before ++ (Text.join (',' :: spacing.gap) texts ++ (spacing.last ++ '\x7d' :: rest))) := by
    simp
  rw [written]
  refine value_object (skipSpace_append beforeSpaces _) ?_
    (fieldsOnto_join spaces rest read nonempty ?_ [])
  · cases read with
    | nil => exact (nonempty rfl).elim
    | @cons text field texts fields first others =>
      obtain ⟨more, starts⟩ := join_cons (',' :: spacing.gap) text texts
      obtain ⟨name, written, rfl, _⟩ := first
      rw [starts, quoted]
      exact ⟨'"', _, rfl, rfl, by decide⟩
  · simp only [List.length_append] at enough ⊢
    omega

end Containers

private theorem start_of_literalOrNumber {text rest : Text} {json : Json}
    (read : literalOrNumber text = .ok (json, rest)) :
    ∃ c more, text = c :: more ∧ isSpace c = false ∧
      c ∉ ['"', '[', '\x7b', ']', '\x7d'] := by
  cases text with
  | nil => cases read
  | cons c more =>
    have fails : ∀ d ∈ [' ', '\t', '\n', '\r', '"', '[', '\x7b', ']', '\x7d'],
        literalOrNumber (d :: more) = .error (.malformed .expectingValue (d :: more)) := by
      simp only [List.forall_mem_cons, List.not_mem_nil, false_imp_iff, implies_true, and_true]
      exact ⟨rfl, rfl, rfl, rfl, rfl, rfl, rfl, rfl, rfl⟩
    have apart : c ∉ [' ', '\t', '\n', '\r', '"', '[', '\x7b', ']', '\x7d'] := fun member => by
      rw [fails c member] at read
      cases read
    simp only [List.mem_cons, List.not_mem_nil, or_false, not_or] at apart ⊢
    exact ⟨c, more, rfl, by simp [isSpace, apart], by simp [apart]⟩

theorem reads_scalar {depth : Nat} {text : Text} {json : Json}
    (read : ∀ rest, Ends rest → literalOrNumber (text ++ rest) = .ok (json, rest)) :
    Reads depth text json := by
  have alone := read [] (by simp [Ends])
  rw [List.append_nil] at alone
  obtain ⟨c, more, rfl, other, apart⟩ := start_of_literalOrNumber alone
  simp only [List.mem_cons, List.not_mem_nil, or_false, not_or] at apart
  refine ⟨⟨c, more, rfl, other, apart.2.2.2.1, apart.2.2.2.2⟩, ?_⟩
  intro rest ends
  rw [← read rest ends, List.cons_append, value.eq_def]
  split
  simp_all

theorem reads_quoted {depth : Nat} (text : Text) : Reads depth (quoted text) (.str text.rejoined) := by
  refine ⟨⟨_, _, rfl, rfl, by decide, by decide⟩, ?_⟩
  intro rest _
  have written : quoted text ++ rest = '"' :: (text.flatMap escapeChar ++ '"' :: rest) := by simp [quoted]
  rw [written, value.eq_def]
  simp only [stringOnto_quoted, bind, Except.bind, List.reverse_nil, List.nil_append]

theorem rereadItems_eq (items : List Json) : rereadItems items = items.map reread := by
  induction items with
  | nil => rfl
  | cons item items ih => simp only [rereadItems, List.map_cons, ih]

theorem rereadFields_eq (fields : List (Text × Json)) :
    rereadFields fields = fields.map fun field => (field.1.rejoined, field.2.reread) := by
  induction fields with
  | nil => rfl
  | cons field fields ih => simp only [rereadFields, List.map_cons, ih]

theorem mergedItems_eq (items : List Json) : mergedItems items = items.map merged := by
  induction items with
  | nil => rfl
  | cons item items ih => simp only [mergedItems, List.map_cons, ih]

theorem mergedFields_eq (fields : List (Text × Json)) :
    mergedFields fields = fields.map fun field => (field.1, field.2.merged) := by
  induction fields with
  | nil => rfl
  | cons field fields ih => simp only [mergedFields, List.map_cons, ih]

theorem reread_array_merged (items : List Json) :
    (reread (.array items)).merged = .array (items.map fun item => item.reread.merged) := by
  rw [reread, merged, mergedItems_eq, rereadItems_eq, List.map_map]
  rfl

/-- The fields of an object as they are read back: of two that are read under one name the last counts. -/
def readFields (fields : List (Text × Json)) : List (Text × Json) :=
  setFields [] (fields.map fun field => (field.1.rejoined, field.2.reread.merged))

theorem reread_object_merged (fields : List (Text × Json)) :
    (reread (.object fields)).merged = .object (readFields fields) := by
  rw [reread, merged, mergedFields_eq, rereadFields_eq, List.map_map]
  rfl

theorem reads_empty_array {depth : Nat} : Reads (depth + 1) "[]" (.array []) :=
  ⟨⟨'[', [']'], rfl, rfl, by decide, by decide⟩, fun _ _ => rfl⟩

theorem reads_empty_object {depth : Nat} : Reads (depth + 1) ['\x7b', '\x7d'] (.object []) :=
  ⟨⟨'\x7b', ['\x7d'], rfl, rfl, by decide, by decide⟩, fun _ _ => rfl⟩

/-- Whether a value comes back as it is: its texts are whole, and no floating-point number is in it. -/
inductive IsExact : Json → Prop
  | null : IsExact .null
  | bool {value} : IsExact (.bool value)
  | int {value} : IsExact (.int value)
  | str {value : Text} : value.IsWhole → IsExact (.str value)
  | array {items} : (∀ item ∈ items, IsExact item) → IsExact (.array items)
  | object {fields} : (∀ field ∈ fields, field.1.IsWhole) → (∀ field ∈ fields, IsExact field.2) →
      IsExact (.object fields)

theorem IsExact.reread_eq {json : Json} (exact : json.IsExact) : json.reread = json := by
  induction exact with
  | null => rfl
  | bool => rfl
  | int => rfl
  | str whole => rw [reread, Text.rejoined_of_isWhole whole]
  | array _ ih =>
    rw [reread, rereadItems_eq, List.map_congr_left ih, List.map_id']
  | @object fields whole _ ih =>
    have same : ∀ field ∈ fields, (field.1.rejoined, field.2.reread) = field := fun field member => by
      rw [Text.rejoined_of_isWhole (whole field member), ih field member]
    rw [reread, rereadFields_eq, List.map_congr_left same, List.map_id']

/-- Whether a value is read back in whichever of the two forms it is written. -/
def IsReread (depth : Nat) (json : Json) : Prop :=
  Reads depth json.render json.reread ∧
    ∀ margin, (∀ c ∈ margin, isSpace c = true) → Reads depth (json.renderIndented margin) json.reread

private theorem forall₂_map {α β γ : Type} {related : β → γ → Prop} {items : List α} (f : α → β)
    (g : α → γ) (all : ∀ item ∈ items, related (f item) (g item)) :
    List.Forall₂ related (items.map f) (items.map g) :=
  List.forall₂_map_left_iff.mpr (List.forall₂_map_right_iff.mpr (List.forall₂_same.mpr all))

/-- The space between items on one line. -/
private def onLine : Spacing := ⟨[' '], []⟩

/-- The space between items on several lines. -/
private def onLines (margin : Text) : Spacing := ⟨'\n' :: margin ++ "  ", '\n' :: margin⟩

private theorem onLine_isSpace : onLine.IsSpace :=
  ⟨List.all_eq_true.mp rfl, List.forall_mem_nil _, fun _ first => by cases first⟩

private theorem onLines_isSpace {margin : Text} (spaces : ∀ c ∈ margin, isSpace c = true) :
    (onLines margin).IsSpace := by
  refine ⟨?_, ?_, fun c first => (Option.some.inj first).symm⟩
  · simp [onLines, isSpace, or_imp, forall_and]
    simpa [isSpace] using spaces
  · simpa [onLines, isSpace] using spaces

private theorem deeper_isSpace {margin : Text} (spaces : ∀ c ∈ margin, isSpace c = true) :
    ∀ c ∈ "  " ++ margin, isSpace c = true :=
  List.forall_mem_append.mpr ⟨List.all_eq_true.mp rfl, spaces⟩

/-- Whatever is within bounds is read, in either form; only fields that are read under one name are merged. -/
theorem IsBounded.reads {depth : Nat} {json : Json} (bounded : IsBounded depth json) :
    Reads depth json.render json.reread.merged ∧
      ∀ margin, (∀ c ∈ margin, isSpace c = true) →
        Reads depth (json.renderIndented margin) json.reread.merged := by
  induction bounded with
  | null => exact ⟨reads_scalar fun _ _ => rfl, fun _ _ => reads_scalar fun _ _ => rfl⟩
  | @bool depth value =>
    cases value <;> exact ⟨reads_scalar fun _ _ => rfl, fun _ _ => reads_scalar fun _ _ => rfl⟩
  | int short =>
    exact ⟨reads_scalar fun _ => literalOrNumber_ofInt short,
      fun _ _ => reads_scalar fun _ => literalOrNumber_ofInt short⟩
  | @float depth value =>
    exact ⟨reads_scalar fun _ => literalOrNumber_toText value,
      fun _ _ => reads_scalar fun _ => literalOrNumber_toText value⟩
  | str => exact ⟨reads_quoted _, fun _ _ => reads_quoted _⟩
  | @array depth items _ ih =>
    rw [reread_array_merged]
    cases items with
    | nil => exact ⟨reads_empty_array, fun _ _ => reads_empty_array⟩
    | cons item items =>
      constructor
      · have read := reads_array onLine_isSpace (List.forall_mem_nil _)
          (forall₂_map render (fun item => item.reread.merged) fun item member => (ih item member).1) (by simp)
        simpa [render, renderItems_eq, onLine] using read
      · intro margin spaces
        have read := reads_array (onLines_isSpace spaces) (onLines_isSpace spaces).gap
          (forall₂_map (renderIndented ("  " ++ margin)) (fun item => item.reread.merged) fun item member =>
            (ih item member).2 _ (deeper_isSpace spaces)) (by simp)
        simpa [renderIndented, bracketed, renderItemsIndented_eq, onLines] using read
  | @object depth fields _ ih =>
    rw [reread_object_merged, readFields]
    cases fields with
    | nil => exact ⟨reads_empty_object, fun _ _ => reads_empty_object⟩
    | cons field fields =>
      constructor
      · have read := reads_object onLine_isSpace (List.forall_mem_nil _)
          (forall₂_map (fun field => quoted field.1 ++ ": " ++ field.2.render)
            (fun field => (field.1.rejoined, field.2.reread.merged))
            fun field member => ⟨_, _, rfl, rfl, (ih field member).1⟩) (by simp)
        simpa [render, renderFields_eq, onLine] using read
      · intro margin spaces
        have read := reads_object (onLines_isSpace spaces) (onLines_isSpace spaces).gap
          (forall₂_map (fun field => quoted field.1 ++ ": " ++ field.2.renderIndented ("  " ++ margin))
            (fun field => (field.1.rejoined, field.2.reread.merged))
            fun field member => ⟨_, _, rfl, rfl, (ih field member).2 _ (deeper_isSpace spaces)⟩)
          (by simp)
        simpa [renderIndented, bracketed, renderFieldsIndented_eq, onLines] using read

/-- What can be read back is within bounds, and has nothing to merge. -/
theorem IsReadable.bounded_and_merged {depth : Nat} {json : Json} (readable : IsReadable depth json) :
    IsBounded depth json ∧ json.reread.merged = json.reread := by
  induction readable with
  | null => exact ⟨.null, rfl⟩
  | bool => exact ⟨.bool, rfl⟩
  | int short => exact ⟨.int short, rfl⟩
  | float => exact ⟨.float, rfl⟩
  | str => exact ⟨.str, rfl⟩
  | array _ ih =>
    refine ⟨.array fun item member => (ih item member).1, ?_⟩
    rw [reread_array_merged, reread, rereadItems_eq]
    exact congrArg Json.array (List.map_congr_left fun item member => (ih item member).2)
  | object distinct _ ih =>
    refine ⟨.object fun field member => (ih field member).1, ?_⟩
    have same := List.map_congr_left fun field member =>
      congrArg (Prod.mk (Text.rejoined field.1)) (ih field member).2
    rw [reread_object_merged, readFields, same, setFields_nil (by rwa [List.map_map]), reread, rereadFields_eq]

theorem object_merged {fields : List (Text × Json)} (single : (fields.map (·.1)).Nodup)
    (same : ∀ field ∈ fields, field.2.merged = field.2) : (object fields).merged = .object fields := by
  have values : ∀ field ∈ fields, (field.1, field.2.merged) = field := fun field member => by
    rw [same field member]
  rw [merged, mergedFields_eq, List.map_congr_left values, List.map_id', setFields_nil single]

/-- No name but a plain one itself is read as that name, so its field is set once at most. -/
theorem field?_setFields_read {name : Text} (plain : name.IsPlain) {fields : List (Text × Json)}
    (single : (fields.map (·.1)).Nodup) (own : List (Text × Json)) :
    field? (setFields own (fields.map fun field => (field.1.rejoined, field.2.reread.merged))) name =
      ((field? fields name).map fun value => value.reread.merged).or (field? own name) := by
  have small : ∀ c ∈ name, c.toNat < 0x10000 := fun c inside => Nat.lt_trans (plain c inside).2 (by decide)
  induction fields generalizing own with
  | nil => rfl
  | cons field fields ih =>
    rw [List.map_cons, List.nodup_cons] at single
    obtain ⟨apart, single⟩ := single
    rw [List.map_cons, setFields, List.foldl_cons, ← setFields, ih single, field?_cons]
    by_cases same : field.1 = name
    · rw [same] at apart
      rw [if_pos same, field?_eq_none.mpr apart, same, Text.rejoined_of_isWhole plain.isWhole,
        field?_setField_self]
      rfl
    · rw [if_neg same, field?_setField fun read => same (Text.eq_of_rejoined small read)]

theorem field?_readFields {name : Text} (plain : name.IsPlain) {fields : List (Text × Json)}
    (single : (fields.map (·.1)).Nodup) :
    field? (readFields fields) name = (field? fields name).map fun value => value.reread.merged := by
  rw [readFields, field?_setFields_read plain single]
  exact Option.or_none

theorem IsReadable.isReread {depth : Nat} {json : Json} (readable : IsReadable depth json) :
    IsReread depth json := by
  obtain ⟨bounded, same⟩ := readable.bounded_and_merged
  have read := bounded.reads
  rwa [same] at read

theorem Reads.document {text rest : Text} {json : Json} (read : Reads depthLimit text json)
    (ends : rest = [] ∨ rest = ['\n']) : Json.document (text ++ rest) = .ok json := by
  have ends : Ends rest ∧ Json.skipSpace rest = [] := by
    rcases ends with rfl | rfl
    · exact ⟨by simp [Ends], rfl⟩
    · exact ⟨by simp [Ends], rfl⟩
  simp only [Json.document, read.skipSpace, read.reads rest ends.1, ends.2, bind, Except.bind]

theorem parse_eq {text : Text} {json : Json} (plain : text.IsPlain) (read : document text = .ok json) :
    parse text = .ok json ∧ parseDecoded text = .ok json := by
  have decoded : parseDecoded text = .ok json := by rw [parseDecoded, read]; rfl
  have unmarked : text.head? ≠ some byteOrderMark := by
    intro first
    have small := plain byteOrderMark (List.mem_of_mem_head? first)
    revert small
    decide
  exact ⟨by rw [parse, if_neg unmarked, decoded], decoded⟩

/-- A value on one line is read back, whether it comes as a text or as bytes. -/
theorem IsBounded.parse_render {json : Json} (bounded : json.IsBounded depthLimit) :
    parse json.render = .ok json.reread.merged ∧ parseDecoded json.render = .ok json.reread.merged := by
  have read := bounded.reads.1.document (.inl rfl)
  rw [List.append_nil] at read
  exact parse_eq (isPlain_render json) read

theorem parse_render {json : Json} (readable : json.IsReadable depthLimit) :
    parse json.render = .ok json.reread ∧ parseDecoded json.render = .ok json.reread := by
  obtain ⟨bounded, same⟩ := readable.bounded_and_merged
  have read := bounded.parse_render
  rwa [same] at read

/-- A value on several lines is read back, also with a line feed after it. -/
theorem parse_pretty {json : Json} (readable : json.IsReadable depthLimit) :
    parse (json.pretty ++ "\n") = .ok json.reread := by
  have read := (readable.isReread.2 [] (List.forall_mem_nil _)).document (.inr rfl)
  exact (parse_eq (Text.isPlain_append.mpr ⟨isPlain_pretty json, by decide⟩) read).1

end ProjectSurvey.Json
