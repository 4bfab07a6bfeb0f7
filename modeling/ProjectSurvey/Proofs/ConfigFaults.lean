import ProjectSurvey.Config
import ProjectSurvey.Proofs.EncodedText
import ProjectSurvey.Proofs.YamlDocuments
import ProjectSurvey.Proofs.YamlValues

/-! When a configuration file that is there gives neither settings nor a fault that says what is wrong with
it: its bytes are no text, a document in it goes beyond what can be read, or a value does not fit the tag
that it has. -/

namespace ProjectSurvey

namespace Config

/-- Whether a value is that of a setting that is a text. -/
def IsText (data : Yaml.Data) (value : Yaml.Value) : Prop :=
  ∃ pairs, data.heap.pairs? data.root = some pairs ∧ data.heap.isTruthy value = true ∧
    (Yaml.Value.field? (group data.heap (Yaml.Value.field? pairs "usage_log")) "directory" = some value ∨
      Yaml.Value.field? (group data.heap (Yaml.Value.field? pairs "search")) "default_category" = some value)

/-- Whether the text of a configuration file has a fault that goes untold. -/
inductive Stumbles (text : Text) : Prop
  /-- Nodes are nested too deep. -/
  | nested (unread : Yaml.Document.ofText text = .error .tooDeep)
  /-- An escape names a code point beyond the last one. -/
  | beyond {number : Nat} (last : Yaml.codePointLimit < number)
    (unread : Yaml.Document.ofText text = .error (.codePoint number))
  /-- A node has a tag that the text of a scalar does not fit, or no text at all. -/
  | unfit {document : Yaml.Document} {fault : Yaml.Fault} (read : Yaml.Document.ofText text = .ok document)
    (cause : fault.OfNodes document.graph) (other : fault ≠ .malformed)
    (refused : Yaml.Data.ofDocument document = .error fault)
  /-- A setting that is a text is, or holds, a whole number with too many digits. -/
  | unshown {data : Yaml.Data} {value : Yaml.Value} {count : Nat} (read : Yaml.Data.ofText text = .ok data)
    (setting : IsText data value) (many : wholeDigitLimit < count)
    (refused : data.heap.toText value = .error (.tooManyDigits count))

theorem textOr_fails_iff {heap : Yaml.Heap} {pairs : List (Yaml.Value × Yaml.Value)} {name otherwise : Text}
    {kind : Yaml.Fault → Prop} : FailsOnly kind (textOr heap pairs name otherwise) ↔
      ∀ value, Yaml.Value.field? pairs name = some value → heap.isTruthy value = true →
        FailsOnly kind (heap.toText value) := by
  rw [textOr]
  cases found : (Yaml.Value.field? pairs name).filter heap.isTruthy with
  | some value =>
    obtain ⟨stands, counts⟩ := Option.filter_eq_some_iff.mp found
    constructor
    · intro fails other again _
      cases stands.symm.trans again
      exact fails
    · intro fails
      exact fails value stands counts
  | none =>
    have unset := Option.filter_eq_none_iff.mp found
    exact iff_of_true (failsOnly_ok _) fun value stands counts => absurd counts (unset value stands)

theorem ofPairs_succeeds_iff (root : Path) {data : Yaml.Data} {pairs : List (Yaml.Value × Yaml.Value)}
    (mapping : data.heap.pairs? data.root = some pairs) :
    FailsOnly (fun _ => False) (ofPairs root data.heap pairs) ↔
      ∀ value, IsText data value → FailsOnly (fun _ => False) (data.heap.toText value) := by
  simp only [ofPairs, failsOnly_bind, failsOnly_ok, implies_true, and_true]
  constructor
  · rintro ⟨directory, category⟩ value ⟨_, again, counts, stands⟩
    cases mapping.symm.trans again
    rcases stands with stands | stands
    · exact textOr_fails_iff.mp directory value stands counts
    · obtain ⟨_, given⟩ := directory.given
      exact textOr_fails_iff.mp (category _ given) value stands counts
  · intro shows
    refine ⟨textOr_fails_iff.mpr ?_, fun _ _ => textOr_fails_iff.mpr ?_⟩
    · exact fun value stands counts => shows value ⟨pairs, mapping, counts, .inl stands⟩
    · exact fun value stands counts => shows value ⟨pairs, mapping, counts, .inr stands⟩

theorem ofText_tells_iff (root : Path) (file text : Text) :
    FailsOnly (·.isTold = true) (ofText root file text) ↔
      FailsOnly (· = .malformed) (Yaml.Data.ofText text) ∧
        ∀ data, Yaml.Data.ofText text = .ok data → ∀ value, IsText data value →
          FailsOnly (fun _ => False) (data.heap.toText value) := by
  rw [ofText]
  cases read : Yaml.Data.ofText text with
  | error fault =>
    rw [failsOnly_error]
    cases fault <;> simp [ConfigFault.isTold]
  | ok data =>
    simp only [failsOnly_ok, true_and, Except.ok.injEq, forall_eq']
    cases mapping : data.heap.pairs? data.root with
    | some pairs =>
      rw [← ofPairs_succeeds_iff root mapping]
      split
      · next nothing =>
        rw [nothing] at mapping
        cases mapping
      · next same _ =>
        cases same
        rw [failsOnly_mapError]
        constructor
        · intro tells fault failed
          cases tells fault failed
        · intro never fault failed
          exact absurd failed (never fault)
      · next impossible _ => cases impossible
    | none =>
      have unset : ∀ value, IsText data value → FailsOnly (fun _ => False) (data.heap.toText value) := by
        rintro value ⟨pairs, again, -⟩
        cases mapping.symm.trans again
      refine iff_of_true ?_ unset
      split
      · exact failsOnly_ok _
      · next impossible _ => cases impossible
      · exact failsOnly_error.mpr rfl

/-- Exactly the texts that stumble have an untold fault. -/
theorem not_stumbles_iff {text : Text} : ¬ Stumbles text ↔
    FailsOnly (· = .malformed) (Yaml.Data.ofText text) ∧
      ∀ data, Yaml.Data.ofText text = .ok data → ∀ value, IsText data value →
        FailsOnly (fun _ => False) (data.heap.toText value) := by
  constructor
  · intro steady
    constructor
    · intro fault refused
      refine Decidable.byContradiction fun other => ?_
      apply steady
      cases read : Yaml.Document.ofText text with
      | error cause =>
        have same : cause = fault := by
          rw [Yaml.Data.ofText, read] at refused
          exact Except.error.inj refused
        subst same
        cases Yaml.Document.ofText_fails text cause read with
        | tooDeep => exact .nested read
        | ofText told =>
          cases told with
          | malformed => exact absurd rfl other
          | codePoint last => exact .beyond last read
      | ok document =>
        rw [Yaml.Data.ofText, read] at refused
        exact .unfit read (Yaml.Data.ofDocument_fails document fault refused) other refused
    · intro data read value setting fault refused
      apply steady
      cases data.heap.toText_fails value fault refused with
      | tooManyDigits many => exact .unshown read setting many refused
  · rintro ⟨told, shown⟩ stumbles
    cases stumbles with
    | nested unread =>
      have refused : Yaml.Data.ofText text = .error .tooDeep := by
        rw [Yaml.Data.ofText, unread]
        rfl
      cases told _ refused
    | @beyond number _ unread =>
      have refused : Yaml.Data.ofText text = .error (.codePoint number) := by
        rw [Yaml.Data.ofText, unread]
        rfl
      cases told _ refused
    | @unfit document fault read _ other refused =>
      have unmade : Yaml.Data.ofText text = .error fault := by
        rw [Yaml.Data.ofText, read]
        exact refused
      exact other (told fault unmade)
    | unshown read setting _ refused => exact shown _ read _ setting _ refused

end Config

/-- Loading the settings of a path that leads to a file, or to where one may be, gives settings or tells what
is wrong with them exactly if the file can be looked at, its bytes, if they can be read, are those of a
text, and that text does not stumble. -/
theorem loadConfig_tells_iff {place : Place} {homes : Homes} {path file : Path}
    (resolved : place.configFile homes path = .ok file) :
    (∀ fault, place.loadConfig homes path = .error fault → fault.isTold = true) ↔
      (∃ isThere, place.isFile file = .ok isThere) ∧
        ∀ bytes, place.isFile file = .ok true → place.readBytes file = .ok bytes →
          ∃ text, bytes = Utf8.encode text ∧ ¬ Config.Stumbles text.unifyNewlines := by
  have loaded : place.loadConfig homes path = (do
      if ← (place.isFile file).mapError .inaccessible then
        let bytes ← (place.readBytes file).mapError fun fault => .unreadable file.name ⟨fault, file⟩
        let text ← (Utf8.decode bytes).mapError .undecodable
        Config.ofText file.parent file.name text.unifyNewlines
      else .ok (.standard file.parent)) := by
    rw [Place.loadConfig, resolved]
    rfl
  change FailsOnly (ConfigFault.isTold · = true) _ ↔ _
  rw [loaded]
  cases looked : place.isFile file with
  | error fault =>
    refine iff_of_false ?_ ?_
    · intro tells
      cases tells _ rfl
    · rintro ⟨⟨_, impossible⟩, -⟩
      cases impossible
  | ok isThere =>
    cases isThere with
    | false => exact iff_of_true (failsOnly_ok _) ⟨⟨false, rfl⟩, fun _ impossible => by cases impossible⟩
    | true =>
      cases read : place.readBytes file with
      | error fault =>
        exact iff_of_true (failsOnly_error.mpr rfl) ⟨⟨true, rfl⟩, fun _ _ impossible => by cases impossible⟩
      | ok bytes =>
        simp only [Except.ok.injEq, exists_eq', true_and, forall_const, forall_eq']
        change FailsOnly (ConfigFault.isTold · = true) ((Utf8.decode bytes).mapError .undecodable >>=
          fun text => Config.ofText file.parent file.name text.unifyNewlines) ↔ _
        cases decoded : Utf8.decode bytes with
        | error fault =>
          refine iff_of_false ?_ ?_
          · intro tells
            cases tells _ rfl
          · rintro ⟨text, rfl, -⟩
            cases decoded.symm.trans (Utf8.decode_encode text)
        | ok text =>
          change FailsOnly (ConfigFault.isTold · = true) (Config.ofText _ _ _) ↔ _
          rw [Config.ofText_tells_iff, ← Config.not_stumbles_iff, Utf8.decode_eq_ok.mp decoded]
          constructor
          · intro steady
            exact ⟨text, rfl, steady⟩
          · rintro ⟨other, same, steady⟩
            rw [Utf8.encode_injective same]
            exact steady

/-- In a project whose file is no text nothing is told, and in a directory without a file there is nothing
to tell. -/
theorem loadConfig_tells_without_file :
    let place : Place := ⟨.directory [(configName, .file [0xFF]), ("sub", .directory [])], []⟩
    let homes : Homes := ⟨"/", []⟩
    place.configFile homes (.ofText "sub") = .ok ⟨.root, ["sub", configName]⟩ ∧
      (∀ fault, place.loadConfig homes (.ofText "sub") = .error fault → fault.isTold = true) ∧
      place.configFile homes (.ofText ".") = .ok ⟨.root, [configName]⟩ ∧
      ¬ ∀ fault, place.loadConfig homes (.ofText ".") = .error fault → fault.isTold = true := by
  intro place homes
  have missing : place.configFile homes (.ofText "sub") = .ok ⟨.root, ["sub", configName]⟩ := rfl
  have present : place.configFile homes (.ofText ".") = .ok ⟨.root, [configName]⟩ := rfl
  refine ⟨missing, (loadConfig_tells_iff missing).mpr ⟨⟨false, rfl⟩, ?_⟩, present, ?_⟩
  · intro bytes isThere
    cases isThere
  · intro tells
    obtain ⟨text, written, -⟩ := ((loadConfig_tells_iff present).mp tells).2 [0xFF] rfl rfl
    have read := Utf8.decode_encode text
    rw [← written] at read
    cases read

/-- A configuration file that is no text is not said to be at fault. -/
theorem loadConfig_hides_undecodable :
    ¬ ∀ (place : Place) (homes : Homes) (path file : Path), place.configFile homes path = .ok file →
      ∀ fault, place.loadConfig homes path = .error fault → fault.isTold = true := by
  intro always
  have tells := always ⟨.directory [(configName, .file [0xFF])], []⟩ ⟨"/", []⟩ (.ofText ".")
    ⟨.root, [configName]⟩ rfl (.undecodable ⟨0, 1, 0xFF, .badStart⟩) rfl
  cases tells

end ProjectSurvey
