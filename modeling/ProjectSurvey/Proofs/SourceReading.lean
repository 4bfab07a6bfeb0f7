import ProjectSurvey.Proofs.WellFormedBytes
import ProjectSurvey.Source

/-! The text that is read from the bytes of a source file. It is the text that they spell, with one kind of line
break, and there is none if they spell no text or have a byte of zero among them. -/

namespace ProjectSurvey

namespace Text

/-- A text beside the same text with every carriage return and line feed, and every other carriage return, turned
into one line feed. -/
inductive UnifiedAs : Text → Text → Prop where
  | nil : UnifiedAs [] []
  | pair {text unified} (onward : UnifiedAs text unified) : UnifiedAs ('\r' :: '\n' :: text) ('\n' :: unified)
  | lone {text unified} (alone : text.head? ≠ some '\n') (onward : UnifiedAs text unified) :
      UnifiedAs ('\r' :: text) ('\n' :: unified)
  | other {c text unified} (apart : c ≠ '\r') (onward : UnifiedAs text unified) :
      UnifiedAs (c :: text) (c :: unified)

variable {c : Char} {text unified : Text}

/-- What becomes of a character that stands after another. -/
def unified? (before c : Char) : Option Char :=
  if c = '\r' then some '\n' else if c = '\n' && before = '\r' then none else some c

/-- What becomes of a text that stands after a character. -/
def unifyAfter (before : Char) (text : Text) : Text :=
  ((before :: text).zip text).filterMap fun pair => unified? pair.1 pair.2

theorem unifyNewlines_eq (text : Text) : text.unifyNewlines = unifyAfter ' ' text :=
  rfl

theorem unifyAfter_cons (before c : Char) (text : Text) :
    unifyAfter before (c :: text) = (unified? before c).toList ++ unifyAfter c text := by
  simp only [unifyAfter, List.zip_cons_cons, List.filterMap_cons]
  cases unified? before c <;> rfl

/-- A character is kept unless it is a carriage return or the line feed of a pair. -/
theorem unified?_eq_some {before : Char} (returns : c ≠ '\r') (apart : ¬ (before = '\r' ∧ c = '\n')) :
    unified? before c = some c := by
  rw [and_comm] at apart
  simp only [unified?, returns, if_false, Bool.and_eq_true, decide_eq_true_eq, apart]

/-- What stands before a text counts only if the two are a carriage return and a line feed. -/
theorem unifyAfter_eq {before : Char} (apart : ¬ (before = '\r' ∧ text.head? = some '\n')) :
    unifyAfter before text = text.unifyNewlines := by
  cases text with
  | nil => rfl
  | cons c text =>
    have same : unified? before c = unified? ' ' c := by
      by_cases returns : c = '\r'
      · rw [returns]
        rfl
      · rw [unified?_eq_some returns (by simpa using apart), unified?_eq_some returns (by simp)]
    rw [unifyNewlines_eq, unifyAfter_cons, unifyAfter_cons, same]

theorem unifyNewlines_of_ne (returns : c ≠ '\r') (text : Text) :
    unifyNewlines (c :: text) = c :: text.unifyNewlines := by
  rw [unifyNewlines_eq, unifyAfter_cons, unified?_eq_some returns (by simp), Option.toList_some,
    unifyAfter_eq fun paired => returns paired.1, List.singleton_append]

theorem unifyNewlines_lone (alone : text.head? ≠ some '\n') :
    unifyNewlines ('\r' :: text) = '\n' :: text.unifyNewlines := by
  rw [unifyNewlines_eq, unifyAfter_cons, unifyAfter_eq fun paired => alone paired.2]
  rfl

theorem unifyNewlines_pair (text : Text) : unifyNewlines ('\r' :: '\n' :: text) = '\n' :: text.unifyNewlines := by
  rw [unifyNewlines_eq, unifyAfter_cons, unifyAfter_cons, unifyAfter_eq fun paired => absurd paired.1 (by decide)]
  rfl

theorem unifiedAs_unifyNewlines : (text : Text) → text.UnifiedAs text.unifyNewlines
  | [] => .nil
  | c :: text => by
    by_cases returns : c = '\r'
    · subst returns
      by_cases paired : text.head? = some '\n'
      · cases text with
        | nil => cases paired
        | cons d text =>
          cases paired
          rw [unifyNewlines_pair]
          exact .pair (unifiedAs_unifyNewlines text)
      · rw [unifyNewlines_lone paired]
        exact .lone paired (unifiedAs_unifyNewlines text)
    · rw [unifyNewlines_of_ne returns]
      exact .other returns (unifiedAs_unifyNewlines text)

theorem unifiedAs_iff : text.UnifiedAs unified ↔ text.unifyNewlines = unified := by
  constructor
  · intro same
    induction same with
    | nil => rfl
    | pair onward ih => rw [unifyNewlines_pair, ih]
    | lone alone onward ih => rw [unifyNewlines_lone alone, ih]
    | other apart onward ih => rw [unifyNewlines_of_ne apart, ih]
  · rintro rfl
    exact unifiedAs_unifyNewlines text

namespace UnifiedAs

theorem return_not_mem (same : text.UnifiedAs unified) : '\r' ∉ unified := by
  induction same with
  | nil => exact List.not_mem_nil
  | pair onward ih => exact List.not_mem_cons_of_ne_of_not_mem (by decide) ih
  | lone alone onward ih => exact List.not_mem_cons_of_ne_of_not_mem (by decide) ih
  | other apart onward ih => exact List.not_mem_cons_of_ne_of_not_mem (Ne.symm apart) ih

theorem mem_iff (same : text.UnifiedAs unified) (noReturn : c ≠ '\r') (noFeed : c ≠ '\n') :
    c ∈ unified ↔ c ∈ text := by
  induction same with
  | nil => exact Iff.rfl
  | pair onward ih => simp only [List.mem_cons, noReturn, noFeed, ih, false_or]
  | lone alone onward ih => simp only [List.mem_cons, noReturn, noFeed, ih, false_or]
  | other apart onward ih => simp only [List.mem_cons, ih]

theorem head?_iff (same : text.UnifiedAs unified) (noReturn : c ≠ '\r') (noFeed : c ≠ '\n') :
    unified.head? = some c ↔ text.head? = some c := by
  cases same with
  | nil => exact Iff.rfl
  | pair onward => simp only [List.head?_cons, Option.some.injEq, noReturn.symm, noFeed.symm]
  | lone alone onward => simp only [List.head?_cons, Option.some.injEq, noReturn.symm, noFeed.symm]
  | other apart onward => exact Iff.rfl

end UnifiedAs

theorem unifyNewlines_of_not_mem (none : '\r' ∉ text) : text.unifyNewlines = text := by
  induction text with
  | nil => rfl
  | cons c text ih =>
    obtain ⟨apart, none⟩ := List.ne_and_not_mem_of_not_mem_cons none
    rw [unifyNewlines_of_ne apart.symm, ih none]

end Text

section

variable {bytes : Bytes} {text : Text}

theorem Reading.ofBytes_eq_text : Reading.ofBytes bytes = .text text ↔
    ∃ decoded : Text, Utf8.Spells bytes (decoded.map Char.toNat) ∧ Char.ofNat 0 ∉ decoded ∧
      decoded.UnifiedAs text := by
  simp only [Reading.ofBytes, Text.unifiedAs_iff, ← Utf8.decode_eq_ok_iff_spells]
  cases Utf8.decode bytes with
  | error fault => simp
  | ok decoded => by_cases zero : Char.ofNat 0 ∈ decoded <;> simp [zero]

theorem Reading.ofBytes_encode (noReturn : '\r' ∉ text) (noZero : Char.ofNat 0 ∉ text) :
    Reading.ofBytes (Utf8.encode text) = .text text :=
  ofBytes_eq_text.mpr ⟨text, Utf8.spells_encode text, noZero,
    Text.unifiedAs_iff.mpr (Text.unifyNewlines_of_not_mem noReturn)⟩

theorem Reading.text?_eq_some {reading : Reading} : reading.text? = some text ↔ reading = .text text := by
  cases reading <;> simp [Reading.text?]

end

namespace Place

variable {place : Place} {path : Path} {bytes : Bytes}

/-- A regular file is always read, and what is read is decided by its bytes. -/
theorem readSource_of_find (stands : place.find path = .ok (.file bytes)) :
    place.readSource path = .ok (Reading.ofBytes bytes).text? := by
  have read : place.reading path = .ofBytes bytes := by
    rw [reading, readBytes, stands]
  have readable : ∀ failure, Reading.ofBytes bytes ≠ .unreadable failure := by
    intro failure
    rw [Reading.ofBytes]
    split
    · rintro ⟨⟩
    · split <;> rintro ⟨⟩
  rw [readSource, read]
  split
  · next failure same => exact absurd same (readable failure)
  · rfl

theorem readSource_eq_some (stands : place.find path = .ok (.file bytes)) {text : Text} :
    place.readSource path = .ok (some text) ↔
      ∃ decoded : Text, Utf8.Spells bytes (decoded.map Char.toNat) ∧ Char.ofNat 0 ∉ decoded ∧
        decoded.UnifiedAs text := by
  rw [readSource_of_find stands, Except.ok.injEq, Reading.text?_eq_some, Reading.ofBytes_eq_text]

/-- A regular file is read as a text exactly if its bytes are well-formed and none is zero. The text is the one that
they spell, with each carriage return and line feed, and each other carriage return, turned into a line feed. So it
has neither a carriage return nor a NUL in it, it keeps a byte order mark, and a text without those two is read back
from its bytes. -/
theorem readSource_of_file (stands : place.find path = .ok (.file bytes)) :
    ((∃ text, place.readSource path = .ok (some text)) ↔ Utf8.IsWellFormed bytes ∧ 0 ∉ bytes) ∧
    (place.readSource path = .ok none ↔ ¬ (Utf8.IsWellFormed bytes ∧ 0 ∉ bytes)) ∧
    (∀ text, place.readSource path = .ok (some text) →
      (∃ decoded : Text, Utf8.Spells bytes (decoded.map Char.toNat) ∧ decoded.UnifiedAs text) ∧
      (text.head? = some '\uFEFF' ↔ [0xEF, 0xBB, 0xBF] <+: bytes) ∧ '\r' ∉ text ∧ Char.ofNat 0 ∉ text) ∧
    ∀ text : Text, bytes = Utf8.encode text → Utf8.Spells bytes (text.map Char.toNat) ∧
      ('\r' ∉ text → Char.ofNat 0 ∉ text → place.readSource path = .ok (some text)) := by
  have given : (∃ text, place.readSource path = .ok (some text)) ↔ Utf8.IsWellFormed bytes ∧ 0 ∉ bytes := by
    simp only [readSource_eq_some stands]
    constructor
    · rintro ⟨text, decoded, spells, zero, -⟩
      obtain rfl := Utf8.spells_iff.mp spells
      exact ⟨⟨_, spells⟩, mt Utf8.zero_mem_encode.mp zero⟩
    · rintro ⟨wellFormed, zero⟩
      obtain ⟨decoded, rfl⟩ := Utf8.isWellFormed_iff.mp wellFormed
      exact ⟨_, decoded, Utf8.spells_encode decoded, mt Utf8.zero_mem_encode.mpr zero,
        Text.unifiedAs_unifyNewlines decoded⟩
  refine ⟨given, ?_, fun text read => ?_, fun text written => ?_⟩
  · rw [← given, readSource_of_find stands]
    cases (Reading.ofBytes bytes).text? <;> simp
  · obtain ⟨decoded, spells, zero, same⟩ := (readSource_eq_some stands).mp read
    have mark : Utf8.encodeChar '\uFEFF' = [0xEF, 0xBB, 0xBF] := by decide
    refine ⟨⟨decoded, spells, same⟩, ?_, same.return_not_mem, ?_⟩
    · rw [Utf8.spells_iff.mp spells, ← mark, Utf8.encodeChar_prefix_encode, same.head?_iff (by decide) (by decide)]
    · rwa [same.mem_iff (by decide) (by decide)]
  · refine ⟨Utf8.spells_iff.mpr written, fun noReturn noZero => ?_⟩
    rw [readSource_of_find stands, written, Reading.ofBytes_encode noReturn noZero]
    rfl

/-- A lone carriage return before a pair gives two line feeds, behind a mark that is kept. Two bytes for a NUL are
no text. -/
theorem readSource_of_file_mixed_breaks :
    let bytes : Bytes := [0xEF, 0xBB, 0xBF, 0x61, 0x0D, 0x0D, 0x0A, 0xF0, 0x9F, 0x98, 0x80]
    let overlong : Bytes := [0xC0, 0x80]
    let text : Text := "\uFEFFa\n\n😀"
    let place : Place :=
      ⟨.directory [("a.py", .file bytes), ("b.py", .link "a.py"), ("c.py", .file overlong)], []⟩
    place.find ⟨.here, ["b.py"]⟩ = .ok (.file bytes) ∧ place.readSource ⟨.here, ["b.py"]⟩ = .ok (some text) ∧
      Utf8.IsWellFormed bytes ∧
      (∃ decoded : Text, Utf8.Spells bytes (decoded.map Char.toNat) ∧ decoded.UnifiedAs text) ∧
      place.readSource ⟨.here, ["c.py"]⟩ = .ok none ∧ ¬ Utf8.IsWellFormed overlong := by
  intro bytes overlong text place
  have stands : place.find ⟨.here, ["b.py"]⟩ = .ok (.file bytes) := rfl
  have beside : place.find ⟨.here, ["c.py"]⟩ = .ok (.file overlong) := rfl
  have decoded : (Reading.ofBytes bytes).text? = some text := by decide +kernel
  have undecoded : (Reading.ofBytes overlong).text? = none := by decide +kernel
  have read := (readSource_of_find stands).trans (congrArg Except.ok decoded)
  have passed := (readSource_of_find beside).trans (congrArg Except.ok undecoded)
  obtain ⟨given, -, told, -⟩ := readSource_of_file stands
  obtain ⟨-, refused, -⟩ := readSource_of_file beside
  exact ⟨stands, read, (given.mp ⟨text, read⟩).1, (told text read).1, passed,
    fun wellFormed => refused.mp passed ⟨wellFormed, by decide⟩⟩

end Place

end ProjectSurvey
