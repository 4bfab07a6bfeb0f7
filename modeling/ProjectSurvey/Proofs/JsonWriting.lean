import ProjectSurvey.Proofs.JsonNumbers
import ProjectSurvey.Proofs.JsonStrings

/-! What is written for a JSON value is plain ASCII, and on one line if it is meant to be, whatever its texts
hold. -/

namespace ProjectSurvey.Json

/-- To show something of every value, show it of an array or object whose items have it. -/
@[elab_as_elim]
theorem induct {motive : Json → Prop} (null : motive .null) (bool : ∀ value, motive (.bool value))
    (int : ∀ value, motive (.int value)) (float : ∀ value, motive (.float value))
    (str : ∀ value, motive (.str value))
    (array : ∀ items, (∀ item ∈ items, motive item) → motive (.array items))
    (object : ∀ fields, (∀ field ∈ fields, motive field.2) → motive (.object fields)) (json : Json) :
    motive json :=
  @Json.rec motive (fun items => ∀ item ∈ items, motive item)
    (fun fields => ∀ field ∈ fields, motive field.2) (fun field => motive field.2)
    null bool int float str array object
    (List.forall_mem_nil _) (fun _ _ first rest => List.forall_mem_cons.mpr ⟨first, rest⟩)
    (List.forall_mem_nil _) (fun _ _ first rest => List.forall_mem_cons.mpr ⟨first, rest⟩)
    (fun _ _ value => value) json

theorem renderItems_eq (items : List Json) : renderItems items = items.map render := by
  induction items with
  | nil => rfl
  | cons item items ih => simp only [renderItems, List.map_cons, ih]

theorem renderFields_eq (fields : List (Text × Json)) :
    renderFields fields = fields.map fun field => quoted field.1 ++ ": " ++ field.2.render := by
  induction fields with
  | nil => rfl
  | cons field fields ih => simp only [renderFields, List.map_cons, ih]

theorem renderItemsIndented_eq (margin : Text) (items : List Json) :
    renderItemsIndented margin items = items.map (renderIndented margin) := by
  induction items with
  | nil => rfl
  | cons item items ih => simp only [renderItemsIndented, List.map_cons, ih]

theorem renderFieldsIndented_eq (margin : Text) (fields : List (Text × Json)) :
    renderFieldsIndented margin fields =
      fields.map fun field => quoted field.1 ++ ": " ++ field.2.renderIndented margin := by
  induction fields with
  | nil => rfl
  | cons field fields ih => simp only [renderFieldsIndented, List.map_cons, ih]

theorem isOneLine_quoted (text : Text) : (quoted text).IsOneLine := by
  refine Text.isOneLine_append.mpr ⟨List.forall_mem_cons.mpr ⟨by decide, ?_⟩, by decide⟩
  intro c member
  obtain ⟨d, _, inside⟩ := List.mem_flatMap.mp member
  exact isOneLine_escapeChar d c inside

theorem isOneLine_signed {text : Text} (single : text.IsOneLine) (negative : Bool) :
    (signed negative text).IsOneLine := by
  cases negative with
  | false => exact single
  | true => exact List.forall_mem_cons.mpr ⟨by decide, single⟩

theorem isOneLine_ofInt (value : Int) : (Text.ofInt value).IsOneLine := by
  rw [Text.ofInt]
  split
  · exact List.forall_mem_cons.mpr ⟨by decide, Text.isOneLine_ofNat _⟩
  · exact Text.isOneLine_ofNat _

theorem IsFloatText.isOneLine {text : Text} (written : IsFloatText text) : text.IsOneLine := by
  have digits {text : Text} (digits : text.IsDigits) : text.IsOneLine :=
    Text.isOneLine_of_isDecimalDigit digits.2
  have exponent {sign : Char} (known : sign = '-' ∨ sign = '+') {power : Text} (single : power.IsOneLine) :
      Text.IsOneLine ('e' :: sign :: power) := by
    refine List.forall_mem_cons.mpr ⟨by decide, List.forall_mem_cons.mpr ⟨?_, single⟩⟩
    rcases known with rfl | rfl <;> decide
  have fraction {text : Text} (single : text.IsOneLine) : Text.IsOneLine ('.' :: text) :=
    List.forall_mem_cons.mpr ⟨by decide, single⟩
  cases written with
  | pointed whole after =>
    exact Text.isOneLine_append.mpr ⟨digits whole.1, fraction (digits after)⟩
  | raised whole known power =>
    exact Text.isOneLine_append.mpr ⟨digits whole.1, exponent known (digits power)⟩
  | pointedAndRaised whole after known power =>
    exact Text.isOneLine_append.mpr ⟨digits whole.1,
      Text.isOneLine_append.mpr ⟨fraction (digits after), exponent known (digits power)⟩⟩

theorem isOneLine_toText (x : Binary64) : (x.toText spelling).IsOneLine := by
  rcases Binary64.toText_cases x with noNumber | infinite | ⟨text, written, same⟩
  · rw [noNumber]
    decide
  · rw [infinite]
    exact isOneLine_signed (by decide) _
  · rw [same]
    exact isOneLine_signed written.isOneLine _

private theorem forall_mem_enclosed {holds : Char → Prop} {opening closing : Char} {text : Text}
    (first : holds opening) (last : holds closing) (inside : ∀ c ∈ text, holds c) :
    ∀ c ∈ opening :: text ++ [closing], holds c :=
  List.forall_mem_append.mpr ⟨List.forall_mem_cons.mpr ⟨first, inside⟩, List.forall_mem_singleton.mpr last⟩

/-- What is written on one line is on one line, whatever its texts hold. -/
theorem isOneLine_render (json : Json) : json.render.IsOneLine := by
  have between : Text.IsOneLine ", " := by decide
  induction json using induct with
  | null => decide
  | bool value => cases value <;> decide
  | int value => exact isOneLine_ofInt value
  | float value => exact isOneLine_toText value
  | str value => exact isOneLine_quoted value
  | array items ih =>
    rw [render, renderItems_eq]
    exact forall_mem_enclosed (by decide) (by decide)
      (Text.forall_mem_join between (List.forall_mem_map.mpr ih))
  | object fields ih =>
    rw [render, renderFields_eq]
    have field : ∀ field ∈ fields, (quoted field.1 ++ ": " ++ field.2.render).IsOneLine := fun field member =>
      Text.isOneLine_append.mpr ⟨Text.isOneLine_append.mpr ⟨isOneLine_quoted field.1, by decide⟩, ih field member⟩
    exact forall_mem_enclosed (by decide) (by decide)
      (Text.forall_mem_join between (List.forall_mem_map.mpr field))

theorem isPlain_render (json : Json) : json.render.IsPlain :=
  (isOneLine_render json).isPlain

private theorem isPlain_field (name : Text) {text : Text} (plain : text.IsPlain) :
    Text.IsPlain (quoted name ++ ": " ++ text) :=
  Text.isPlain_append.mpr ⟨Text.isPlain_append.mpr ⟨(isOneLine_quoted name).isPlain, by decide⟩, plain⟩

private theorem isPlain_bracketed {opening closing : Char} {margin : Text} {items : List Text}
    (bounds : Text.IsPlain [opening, closing]) (plain : margin.IsPlain)
    (all : ∀ item ∈ items, Text.IsPlain item) :
    (bracketed opening closing margin items).IsPlain := by
  have line : Text.IsPlain ('\n' :: margin) := Text.isPlain_cons.mpr ⟨by decide, plain⟩
  have gap : Text.IsPlain ('\n' :: margin ++ "  ") := Text.isPlain_append.mpr ⟨line, by decide⟩
  have separator : Text.IsPlain (',' :: ('\n' :: margin) ++ "  ") :=
    Text.isPlain_cons.mpr ⟨by decide, gap⟩
  rw [bracketed]
  split
  · exact bounds
  · have body := Text.isPlain_append.mpr ⟨Text.isPlain_append.mpr ⟨gap, Text.forall_mem_join separator all⟩,
      line⟩
    exact forall_mem_enclosed (bounds _ List.mem_cons_self) (bounds _ (by simp)) body

theorem isPlain_renderIndented {margin : Text} (plain : margin.IsPlain) (json : Json) :
    (json.renderIndented margin).IsPlain := by
  induction json using induct generalizing margin with
  | array items ih =>
    rw [renderIndented, renderItemsIndented_eq]
    have deeper := Text.isPlain_append.mpr ⟨(by decide : Text.IsPlain "  "), plain⟩
    exact isPlain_bracketed (by decide) plain
      (List.forall_mem_map.mpr fun item member => ih item member deeper)
  | object fields ih =>
    rw [renderIndented, renderFieldsIndented_eq]
    have deeper := Text.isPlain_append.mpr ⟨(by decide : Text.IsPlain "  "), plain⟩
    exact isPlain_bracketed (by decide) plain
      (List.forall_mem_map.mpr fun field member => isPlain_field field.1 (ih field member deeper))
  | null => exact isPlain_render .null
  | bool value => exact isPlain_render (.bool value)
  | int value => exact isPlain_render (.int value)
  | float value => exact isPlain_render (.float value)
  | str value => exact isPlain_render (.str value)

/-- What is written on several lines is plain all the same. -/
theorem isPlain_pretty (json : Json) : json.pretty.IsPlain :=
  isPlain_renderIndented Text.isPlain_nil json

end ProjectSurvey.Json
