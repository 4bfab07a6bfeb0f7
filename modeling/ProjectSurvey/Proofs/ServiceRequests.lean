import ProjectSurvey.Proofs.JsonReading
import ProjectSurvey.Proofs.WholeNumbers
import ProjectSurvey.Service

/-! Requests to the service: a length in decimal digits is read as the number of bytes, and a body that
holds an object as the arguments of a call. -/

namespace ProjectSurvey

theorem readWhole_ofNat {n : Nat} (short : (Text.ofNat n).length ≤ wholeDigitLimit) :
    readWhole 10 (Text.ofNat n) = .ok n := by
  have digits := (Text.isNumeral_ofNat n).1
  have same : (Text.ofNat n).map asciiForm = Text.ofNat n := by
    refine (List.map_congr_left fun c member => ?_).trans (List.map_id' _)
    exact if_pos (Text.isOneLine_of_isDecimalDigit digits.2 c member).2
  refine readWhole_eq_ok.mpr ⟨[], [], [Text.ofNat n], [], false, ?_, List.forall_mem_nil _,
    .inr ⟨.inl rfl, rfl⟩, List.cons_ne_nil _ _, List.forall_mem_singleton.mpr digits, ?_, ?_⟩
  · rw [same, Text.join, List.intercalate_singleton, List.append_nil]
    rfl
  · rwa [List.flatten_singleton]
  · rw [List.flatten_singleton, Text.ofNat, decimalValue_toDigits]
    rfl

theorem bodyLength?_ofNat {n : Nat} (small : n ≤ greatestLength) :
    bodyLength? (some (Text.ofNat n)) = some n := by
  have nonempty : (Text.ofNat n).isEmpty = false := by
    simpa using (Text.isNumeral_ofNat n).1.1
  have given : given? (some (Text.ofNat n)) = some (Text.ofNat n) := by
    simp [given?, nonempty]
  have few : (Text.ofNat n).length ≤ 19 :=
    (Nat.length_toDigits_le_iff (by decide) (by decide)).mpr
      (Nat.lt_of_le_of_lt small (by decide : greatestLength < 10 ^ 19))
  have short : (Text.ofNat n).length ≤ wholeDigitLimit := Nat.le_trans few (by decide)
  simp only [bodyLength?, given, readWhole_ofNat short]
  rw [if_neg (by omega), Int.toNat_natCast]

/-- The request that calls a tool with the arguments that a text holds. -/
def ServiceRequest.toCall (line name arguments : Text) : ServiceRequest :=
  let body := Utf8.encode arguments
  ⟨line, .post, toolsPath ++ name, some (Text.ofNat body.length), body⟩

theorem Dispatch.ofRequest_toCall (line name : Text) {arguments : Text}
    (short : (Utf8.encode arguments).length ≤ greatestLength) :
    ofRequest (.toCall line name arguments) = ofBody name (Utf8.encode arguments) := by
  have below : toolsPath.isPrefixOf (toolsPath ++ name) = true :=
    List.isPrefixOf_iff_prefix.mpr (List.prefix_append _ _)
  simp only [ofRequest, ServiceRequest.toCall, below, ite_true, bodyLength?_ofNat short, List.drop_left,
    List.take_length]
  exact if_neg (Nat.not_lt.mpr short)

/-- The text of an object calls the tool with its fields, as they are read. -/
theorem Dispatch.ofBody_render (name : Text) {arguments : List (Text × Json)}
    (bounded : (Json.object arguments).IsBounded Json.depthLimit) :
    ofBody name (Utf8.encode (Json.object arguments).render) = .call name (Json.readFields arguments) := by
  have plain := Json.isPlain_render (.object arguments)
  have nonempty : (Utf8.encode (Json.object arguments).render).isEmpty = false := by
    rw [Utf8.encode_of_isPlain plain, List.isEmpty_map]
    rfl
  have read := bounded.parse_render.2
  rw [Json.reread_object_merged] at read
  simp only [ofBody, nonempty, Json.decodeBytes?_encode plain, read, Bool.false_eq_true, ite_false]

end ProjectSurvey
