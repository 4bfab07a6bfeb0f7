import ProjectSurvey.Inventory.Extraction
import ProjectSurvey.Proofs.PatternFits

/-! The imports of a text are those of a scan from left to right that never goes back: behind `import` and all the
blanks after it the first place on the line is looked for where a package is named, and the scan goes on behind its
closing quotation mark. -/

namespace ProjectSurvey

def IsQuote (c : Char) : Prop :=
  c = '\'' ∨ c = '"'

def sourceText (gap : Text) (opening : Char) (package : Text) (closing : Char) : Text :=
  "from".toList ++ (gap ++ opening :: (package ++ [closing]))

/-- The naming of a package: blanks after `from`, and the package between quotation marks, which need not be
alike. -/
structure NamesPackage (gap : Text) (opening : Char) (package : Text) (closing : Char) : Prop where
  apart : gap ≠ []
  blank : ∀ c ∈ gap, isBlank c = true
  opens : IsQuote opening
  nonempty : package ≠ []
  free : ∀ c ∈ package, ¬ IsQuote c
  closes : IsQuote closing

/-- Whether a text begins with the naming of a package. -/
def BeginsSource (text : Text) : Prop :=
  ∃ gap opening package closing rest, NamesPackage gap opening package closing ∧
    text = sourceText gap opening package closing ++ rest

def importText (blanks between source : Text) : Text :=
  "import".toList ++ (blanks ++ (between ++ source))

/-- An import: all the blanks after the word, then anything on the line, then the naming of a package. -/
structure IsImport (blanks between source package : Text) : Prop where
  apart : blanks ≠ []
  blank : ∀ c ∈ blanks, isBlank c = true
  whole : ∀ c, (between ++ source).head? = some c → isBlank c = false
  line : '\n' ∉ between
  named : ∃ gap opening closing, NamesPackage gap opening package closing ∧
    source = sourceText gap opening package closing

/-- Whether an import stands at the start of a text. -/
def AdmitsImport (text : Text) : Prop :=
  ∃ blanks between source package rest, IsImport blanks between source package ∧
    text = importText blanks between source ++ rest

/-- What a scan finds: the text that it passes over first, then the statement, with the package that it names. -/
structure ImportFind where
  passed : Text
  statement : Text
  package : Text

namespace ImportFind

def covers (find : ImportFind) : Text :=
  find.passed ++ find.statement

/-- What is told of a find. -/
def told (find : ImportFind) : Text × Text :=
  (find.package, find.statement)

/-- Whether the package is from outside the project: a relative path begins with a dot. -/
def isExternal (find : ImportFind) : Bool :=
  find.package.head? != some '.'

end ImportFind

/-- A scan of a text for imports, with what it finds and what remains. It stops at the first position where there is
an import, takes the first naming of a package that the import can end with, and goes on behind it. -/
inductive ScansImports : Text → List ImportFind → Text → Prop
  | done {text : Text} (nowhere : ∀ before after, text = before ++ after → ¬ AdmitsImport after) :
    ScansImports text [] text
  | find {text passed blanks between source package rest last : Text} {finds : List ImportFind}
    (whole : text = passed ++ (importText blanks between source ++ rest))
    (passes : PassesOver AdmitsImport passed (importText blanks between source ++ rest))
    (found : IsImport blanks between source package) (first : PassesOver BeginsSource between (source ++ rest))
    (onward : ScansImports rest finds last) :
    ScansImports text (⟨passed, importText blanks between source, package⟩ :: finds) last

variable {text source package rest : Text} {parts : List Text}

/-- The pieces of the pattern for imports that name the package. -/
def sourcePieces : List Piece :=
  [.word ["from"], .most 1 .blank, .one .quote, .most 1 .notQuote, .one .quote]

theorem sourceText_eq (gap : Text) (opening : Char) (package : Text) (closing : Char) :
    sourceText gap opening package closing = "from".toList ++ (gap ++ opening :: (package ++ [closing])) := rfl

theorem importText_eq (blanks between source : Text) :
    importText blanks between source = "import".toList ++ (blanks ++ (between ++ source)) := rfl

theorem quote_holds {c : Char} : CharClass.quote.holds c = true ↔ IsQuote c := by
  change (decide (c = '\'') || decide (c = '"')) = true ↔ IsQuote c
  simp [IsQuote]

theorem notQuote_holds {c : Char} : CharClass.notQuote.holds c = true ↔ ¬ IsQuote c := by
  change (c != '\'' && c != '"') = true ↔ ¬ IsQuote c
  simp [IsQuote]

theorem IsQuote.not_blank {c : Char} (quote : IsQuote c) : CharClass.blank.holds c = false := by
  rcases quote with rfl | rfl <;> decide

theorem IsQuote.not_free {c : Char} (quote : IsQuote c) : CharClass.notQuote.holds c = false := by
  rcases quote with rfl | rfl <;> decide

theorem fitPieces?_quote_of_blank (pieces : List Piece) (c : Char) (rest : Text)
    (blank : CharClass.blank.holds c = true) (_ : Pattern.fitPieces? rest (.one .quote :: pieces) = none) :
    Pattern.fitPieces? (c :: rest) (.one .quote :: pieces) = none := by
  refine Pattern.fitPieces?_one_of_not_holds (Bool.eq_false_iff.mpr fun quote => ?_) rest
  rw [(quote_holds.mp quote).not_blank] at blank
  cases blank

theorem fitPieces?_quote_of_free (pieces : List Piece) (c : Char) (rest : Text)
    (free : CharClass.notQuote.holds c = true) (_ : Pattern.fitPieces? rest (.one .quote :: pieces) = none) :
    Pattern.fitPieces? (c :: rest) (.one .quote :: pieces) = none :=
  Pattern.fitPieces?_one_of_not_holds (Bool.eq_false_iff.mpr (mt quote_holds.mp (notQuote_holds.mp free))) rest

/-- What the pieces for the package take is its naming. -/
theorem fitPieces?_sourcePieces : Pattern.fitPieces? text sourcePieces = some parts ↔
    ∃ gap opening package closing rest, NamesPackage gap opening package closing ∧
      text = sourceText gap opening package closing ++ rest ∧
      parts = ["from".toList, gap, [opening], package, [closing]] := by
  have alone : ∀ word ∈ ["from".toList], ∀ other ∈ ["from".toList], word <+: other → word = other := by decide
  rw [sourcePieces]
  constructor
  · intro fits
    obtain ⟨_, word, _, _, rfl, onGap, rfl⟩ := (Pattern.fitPieces?_word alone).mp fits
    obtain ⟨gap, _, _, rfl, blank, -, long, onQuote, rfl⟩ :=
      (Pattern.fitPieces?_most_iff (fitPieces?_quote_of_blank _)).mp onGap
    obtain ⟨opening, _, _, rfl, opens, onPackage, rfl⟩ := Pattern.fitPieces?_one.mp onQuote
    obtain ⟨package, _, _, rfl, free, -, some, onClosing, rfl⟩ :=
      (Pattern.fitPieces?_most_iff (fitPieces?_quote_of_free _)).mp onPackage
    obtain ⟨closing, rest, _, rfl, closes, onEnd, rfl⟩ := Pattern.fitPieces?_one.mp onClosing
    obtain rfl := List.mem_singleton.mp word
    cases onEnd
    refine ⟨gap, opening, package, closing, rest, ⟨List.length_pos_iff.mp long, blank, quote_holds.mp opens,
      List.length_pos_iff.mp some, fun c member => notQuote_holds.mp (free c member), quote_holds.mp closes⟩, ?_, rfl⟩
    simp [sourceText_eq]
  · rintro ⟨gap, opening, package, closing, rest, ⟨apart, blank, opens, nonempty, free, closes⟩, rfl, rfl⟩
    have whole : sourceText gap opening package closing ++ rest =
        "from".toList ++ (gap ++ opening :: (package ++ closing :: rest)) := by simp [sourceText_eq]
    refine (Pattern.fitPieces?_word alone).mpr ⟨_, List.mem_singleton_self _, _, _, whole, ?_, rfl⟩
    refine (Pattern.fitPieces?_most_iff (fitPieces?_quote_of_blank _)).mpr
      ⟨gap, _, _, rfl, blank, ?_, List.length_pos_iff.mpr apart, ?_, rfl⟩
    · rintro _ ⟨⟩
      exact opens.not_blank
    refine Pattern.fitPieces?_one.mpr ⟨opening, _, _, rfl, quote_holds.mpr opens, ?_, rfl⟩
    refine (Pattern.fitPieces?_most_iff (fitPieces?_quote_of_free _)).mpr
      ⟨package, _, _, rfl, fun c member => notQuote_holds.mpr (free c member), ?_, List.length_pos_iff.mpr nonempty,
        ?_, rfl⟩
    · rintro _ ⟨⟩
      exact closes.not_free
    exact Pattern.fitPieces?_one.mpr ⟨closing, rest, [], rfl, quote_holds.mpr closes, rfl, rfl⟩

theorem beginsSource_iff : BeginsSource text ↔ Pattern.Fits sourcePieces text := by
  rw [Pattern.fits_iff]
  constructor
  · rintro ⟨gap, opening, package, closing, rest, named, rfl⟩
    exact ⟨_, fitPieces?_sourcePieces.mpr ⟨gap, opening, package, closing, rest, named, rfl, rfl⟩⟩
  · rintro ⟨parts, fits⟩
    obtain ⟨gap, opening, package, closing, rest, named, whole, -⟩ := fitPieces?_sourcePieces.mp fits
    exact ⟨gap, opening, package, closing, rest, named, whole⟩

/-- A blank that the run before it leaves is taken by the rest of the line. -/
theorem fitPieces?_line_of_blank (c : Char) (rest : Text) (blank : CharClass.blank.holds c = true)
    (fails : Pattern.fitPieces? rest (.fewest .withinLine :: sourcePieces) = none) :
    Pattern.fitPieces? (c :: rest) (.fewest .withinLine :: sourcePieces) = none := by
  have here : Pattern.fitPieces? (c :: rest) sourcePieces = none := by
    by_contra fits
    obtain ⟨gap, opening, package, closing, later, -, same⟩ := beginsSource_iff.mpr fits
    obtain ⟨rfl, -⟩ := List.cons.inj same
    exact absurd blank (by decide)
  rw [Pattern.fitPieces?_fewest_cons here, fails]
  split <;> rfl

theorem fit?_importPattern : importPattern.fit? text = some parts ↔ ∃ blanks rest others,
    text = "import".toList ++ (blanks ++ rest) ∧ blanks ≠ [] ∧ (∀ c ∈ blanks, isBlank c = true) ∧
      (∀ c, rest.head? = some c → isBlank c = false) ∧
      Pattern.fitPieces? rest (.fewest .withinLine :: sourcePieces) = some others ∧
      parts = "import".toList :: blanks :: others := by
  have alone : ∀ word ∈ ["import".toList], ∀ other ∈ ["import".toList], word <+: other → word = other := by decide
  rw [Pattern.fit?, importPattern, ← sourcePieces]
  constructor
  · intro fits
    obtain ⟨_, word, _, _, rfl, onBlanks, rfl⟩ := (Pattern.fitPieces?_word alone).mp fits
    obtain ⟨blanks, rest, others, rfl, blank, stop, long, onLine, rfl⟩ :=
      (Pattern.fitPieces?_most_iff fitPieces?_line_of_blank).mp onBlanks
    obtain rfl := List.mem_singleton.mp word
    exact ⟨blanks, rest, others, rfl, List.length_pos_iff.mp long, blank, stop, onLine, rfl⟩
  · rintro ⟨blanks, rest, others, rfl, apart, blank, stop, onLine, rfl⟩
    refine (Pattern.fitPieces?_word alone).mpr ⟨_, List.mem_singleton_self _, _, _, rfl, ?_, rfl⟩
    exact (Pattern.fitPieces?_most_iff fitPieces?_line_of_blank).mpr
      ⟨blanks, rest, others, rfl, blank, stop, List.length_pos_iff.mpr apart, onLine, rfl⟩

theorem withinLine_holds {c : Char} : CharClass.withinLine.holds c = true ↔ c ≠ '\n' := by
  simp [CharClass.withinLine]

theorem within_line {between : Text} :
    (∀ c ∈ between, CharClass.withinLine.holds c = true) ↔ '\n' ∉ between := by
  simp only [withinLine_holds]
  exact ⟨fun inside feed => inside _ feed rfl, fun free c member same => free (same ▸ member)⟩

/-- What comes after the source makes no difference to the character that comes next. -/
theorem head?_before_source {between gap : Text} {opening : Char} {package : Text} {closing : Char} (rest : Text) :
    (between ++ (sourceText gap opening package closing ++ rest)).head? =
      (between ++ sourceText gap opening package closing).head? := by
  cases between <;> rfl

theorem importText_append (blanks between source rest : Text) :
    importText blanks between source ++ rest = "import".toList ++ (blanks ++ (between ++ (source ++ rest))) := by
  simp only [importText_eq, List.append_assoc]

theorem passesOver_source {between rest : Text} : PassesOver BeginsSource between rest ↔
    PassesOver (Pattern.Fits sourcePieces) between rest := by
  simp only [PassesOver, beginsSource_iff]

/-- What fits the pattern is an import with the first naming of a package that it can end with. -/
theorem exists_import_of_fit (fits : importPattern.fit? text = some parts) :
    ∃ blanks between source package rest, IsImport blanks between source package ∧
      PassesOver BeginsSource between (source ++ rest) ∧ text = importText blanks between source ++ rest ∧
      parts.flatten = importText blanks between source ∧ parts[6]? = some package := by
  obtain ⟨blanks, _, others, rfl, apart, blank, stop, onLine, rfl⟩ := fit?_importPattern.mp fits
  obtain ⟨between, _, named, rfl, inside, passes, onSource, rfl⟩ := Pattern.fitPieces?_fewest.mp onLine
  obtain ⟨gap, opening, package, closing, rest, names, rfl, rfl⟩ := fitPieces?_sourcePieces.mp onSource
  refine ⟨blanks, between, _, package, rest, ⟨apart, blank, ?_, within_line.mp inside, gap, opening, closing, names,
    rfl⟩, passesOver_source.mpr passes, ?_, ?_, rfl⟩
  · rwa [head?_before_source] at stop
  · rw [importText_append]
  · simp [importText_eq, sourceText_eq]

theorem fit?_of_import {blanks between : Text} (found : IsImport blanks between source package)
    (first : PassesOver BeginsSource between (source ++ rest)) :
    ∃ parts, importPattern.fit? (importText blanks between source ++ rest) = some parts ∧
      parts.flatten = importText blanks between source ∧ parts[6]? = some package := by
  obtain ⟨apart, blank, whole, line, gap, opening, closing, names, rfl⟩ := found
  have onSource := fitPieces?_sourcePieces.mpr ⟨gap, opening, package, closing, rest, names, rfl, rfl⟩
  have onLine := Pattern.fitPieces?_fewest.mpr
    ⟨between, _, _, rfl, within_line.mpr line, passesOver_source.mp first, onSource, rfl⟩
  refine ⟨_, fit?_importPattern.mpr ⟨blanks, _, _, importText_append .., apart, blank, ?_, onLine, rfl⟩, ?_, rfl⟩
  · rwa [head?_before_source]
  · simp [importText_eq, sourceText_eq]

theorem admitsImport_iff : AdmitsImport text ↔ Pattern.Fits importPattern.pieces text := by
  rw [Pattern.fits_iff]
  constructor
  · rintro ⟨blanks, between, _, package, rest, ⟨apart, blank, whole, line, gap, opening, closing, names, rfl⟩, rfl⟩
    have named : Pattern.Fits sourcePieces (sourceText gap opening package closing ++ rest) :=
      beginsSource_iff.mp ⟨gap, opening, package, closing, rest, names, rfl⟩
    obtain ⟨others, onLine⟩ := Pattern.fits_iff.mp (Pattern.fits_fewest (within_line.mpr line) named)
    rw [importText_append]
    refine ⟨_, fit?_importPattern.mpr ⟨blanks, _, others, rfl, apart, blank, ?_, onLine, rfl⟩⟩
    rwa [head?_before_source]
  · rintro ⟨parts, found⟩
    obtain ⟨blanks, between, source, package, rest, isImport, -, whole, -⟩ := exists_import_of_fit found
    exact ⟨blanks, between, source, package, rest, isImport, whole⟩

theorem importText_ne_nil (blanks between source : Text) : importText blanks between source ≠ [] := by
  simp [importText_eq]

/-- A scan has the finds of the pattern. -/
theorem ScansImports.finds_eq {finds : List ImportFind} {last : Text} (scans : ScansImports text finds last) :
    (importPattern.finds text).map (fun parts => ((parts[6]?).getD [], parts.flatten)) =
      finds.map ImportFind.told := by
  induction scans with
  | done nowhere =>
    rw [Pattern.finds_of_nowhere fun before after cut => mt admitsImport_iff.mpr (nowhere before after cut)]
    rfl
  | @find text passed blanks between source package rest last finds whole passes found first onward ih =>
    obtain ⟨parts, fits, statement, named⟩ := fit?_of_import found first
    have skipped : PassesOver (Pattern.Fits importPattern.pieces) passed
        (importText blanks between source ++ rest) :=
      fun before after cut some => mt admitsImport_iff.mpr (passes before after cut some)
    rw [whole, Pattern.finds_append_of_passesOver skipped, ← statement]
    rw [← statement] at fits
    have some : parts.flatten ≠ [] := statement ▸ importText_ne_nil blanks between source
    rw [Pattern.finds_of_fits fits some, List.map_cons, List.map_cons, ih, named]
    rfl

theorem exists_scan (text : Text) : ∃ finds last, ScansImports text finds last := by
  rcases exists_first_position AdmitsImport text with nowhere | ⟨passed, here, whole, passes, admits⟩
  · exact ⟨[], text, .done nowhere⟩
  · obtain ⟨parts, fits⟩ := Pattern.fits_iff.mp (admitsImport_iff.mp admits)
    obtain ⟨blanks, between, source, package, rest, found, first, rfl, -⟩ := exists_import_of_fit fits
    have shorter : rest.length < text.length := by
      rw [whole, List.length_append, List.length_append]
      have some := List.length_pos_iff.mpr (importText_ne_nil blanks between source)
      omega
    obtain ⟨finds, last, scans⟩ := exists_scan rest
    exact ⟨_, last, .find whole passes found first scans⟩
termination_by text.length

theorem ScansImports.unique {finds otherFinds : List ImportFind} {last otherLast : Text}
    (scans : ScansImports text finds last) (others : ScansImports text otherFinds otherLast) :
    otherFinds = finds ∧ otherLast = last := by
  induction scans generalizing otherFinds otherLast with
  | done nowhere =>
    cases others with
    | done => exact ⟨rfl, rfl⟩
    | find whole passes found first onward => exact absurd ⟨_, _, _, _, _, found, rfl⟩ (nowhere _ _ whole)
  | find whole passes found first onward ih =>
    cases others with
    | done nowhere => exact absurd ⟨_, _, _, _, _, found, rfl⟩ (nowhere _ _ whole)
    | find otherWhole otherOver otherFound otherFirst otherOnward =>
      obtain ⟨rfl, same⟩ := passes.unique (whole.symm.trans otherWhole) ⟨_, _, _, _, _, found, rfl⟩ otherOver
        ⟨_, _, _, _, _, otherFound, rfl⟩
      obtain ⟨parts, fits, statement, named⟩ := fit?_of_import found first
      obtain ⟨otherParts, otherFits, otherStatement, otherNamed⟩ := fit?_of_import otherFound otherFirst
      rw [same, otherFits] at fits
      cases fits
      rw [statement] at otherStatement
      rw [named] at otherNamed
      rw [← otherStatement] at same
      cases otherNamed
      obtain rfl := List.append_cancel_left same
      obtain ⟨rfl, rfl⟩ := ih otherOnward
      rw [otherStatement]
      exact ⟨rfl, rfl⟩

section

variable {finds : List ImportFind} {last : Text}

theorem ScansImports.text_eq (scans : ScansImports text finds last) :
    text = finds.flatMap ImportFind.covers ++ last := by
  induction scans with
  | done nowhere => rfl
  | find whole passes found first onward ih =>
    rw [whole, ih, List.flatMap_cons, ImportFind.covers]
    simp only [List.append_assoc]

theorem ScansImports.names_package (scans : ScansImports text finds last) :
    ∀ find ∈ finds, find.package ≠ [] ∧ ∀ c ∈ find.package, ¬ IsQuote c := by
  induction scans with
  | done nowhere => exact List.forall_mem_nil _
  | find whole passes found first onward ih =>
    obtain ⟨gap, opening, closing, names, -⟩ := found.named
    exact List.forall_mem_cons.mpr ⟨⟨names.nonempty, names.free⟩, ih⟩

/-- Where an import stands, the scan has found it or the position lies within a find. -/
theorem ScansImports.position (scans : ScansImports text finds last) {before after : Text}
    (cut : text = before ++ after) (admits : AdmitsImport after) :
    ∃ earlier find later inside, finds = earlier ++ find :: later ∧
      before = earlier.flatMap ImportFind.covers ++ (find.passed ++ inside) ∧
      inside <+: find.statement ∧ inside ≠ find.statement := by
  induction scans generalizing before with
  | done nowhere => exact absurd admits (nowhere before after cut)
  | @find text passed blanks between source package rest last finds whole passes found first onward ih =>
    have later {further : Text} (apart : before = passed ++ (importText blanks between source ++ further))
        (onwards : rest = further ++ after) :
        ∃ earlier find later inside, ⟨passed, importText blanks between source, package⟩ :: finds =
            earlier ++ find :: later ∧ before = earlier.flatMap ImportFind.covers ++ (find.passed ++ inside) ∧
          inside <+: find.statement ∧ inside ≠ find.statement := by
      obtain ⟨earlier, find, later, inside, rfl, rfl, within⟩ := ih onwards
      refine ⟨_ :: earlier, find, later, inside, rfl, ?_, within⟩
      rw [apart, List.flatMap_cons, ImportFind.covers]
      simp only [List.append_assoc]
    rcases List.append_eq_append_iff.mp (whole.symm.trans cut) with ⟨inside, rfl, rest'⟩ | ⟨more, rfl, rfl⟩
    · rcases List.append_eq_append_iff.mp rest' with ⟨further, rfl, onwards⟩ | ⟨more, statement, rfl⟩
      · exact later rfl onwards
      · by_cases none : more = []
        · refine @later [] ?_ ?_ <;> simp [statement, none]
        · refine ⟨[], _, finds, inside, rfl, rfl, ⟨more, statement.symm⟩, fun same => none ?_⟩
          have same : inside = inside ++ more := same.trans statement
          exact List.append_right_eq_self.mp same.symm
    · by_cases none : more = []
      · subst none
        refine ⟨[], _, finds, [], rfl, by simp, List.nil_prefix, (importText_ne_nil blanks between source).symm⟩
      · exact absurd admits (passes before more rfl none)

theorem externalImports_eq_filter (text : Text) : externalImports text =
    ((importPattern.finds text).map fun parts => ((parts[6]?).getD [], parts.flatten)).filter
      fun told => told.1.head? != some '.' := by
  have relative (package : Text) : ".".toList.isPrefixOf package = (package.head? == some '.') := by
    cases package with
    | nil => rfl
    | cons c package => simp [List.isPrefixOf, eq_comm]
  simp only [externalImports, relative]
  induction importPattern.finds text with
  | nil => rfl
  | cons parts finds ih =>
    rw [List.filterMap_cons, List.map_cons, List.filter_cons, ← ih]
    cases dot : ((parts[6]?).getD []).head? == some '.' <;> simp only [bne, dot] <;> rfl

theorem ScansImports.externalImports (scans : ScansImports text finds last) :
    externalImports text = (finds.filter ImportFind.isExternal).map ImportFind.told := by
  rw [externalImports_eq_filter, scans.finds_eq, List.filter_map]
  rfl

end

/-- The imports of a text are those that its one scan finds, without the relative ones. The finds stand in the text
one after another, with what is passed over between them, and no import stands anywhere else. -/
theorem externalImports_scanned (text : Text) :
    ∃ finds last, ScansImports text finds last ∧
      (∀ otherFinds otherLast, ScansImports text otherFinds otherLast → otherFinds = finds ∧ otherLast = last) ∧
      externalImports text = (finds.filter ImportFind.isExternal).map ImportFind.told ∧
      text = finds.flatMap ImportFind.covers ++ last ∧
      (∀ package statement, (package, statement) ∈ externalImports text →
        statement <:+: text ∧ package ≠ [] ∧ (∀ c ∈ package, ¬ IsQuote c) ∧ package.head? ≠ some '.') ∧
      ∀ before after, text = before ++ after → AdmitsImport after →
        ∃ earlier find later inside, finds = earlier ++ find :: later ∧
          before = earlier.flatMap ImportFind.covers ++ (find.passed ++ inside) ∧
          inside <+: find.statement ∧ inside ≠ find.statement := by
  obtain ⟨finds, last, scans⟩ := exists_scan text
  have imports := scans.externalImports
  refine ⟨finds, last, scans, fun _ _ => scans.unique, imports, scans.text_eq, ?_, fun _ _ => scans.position⟩
  intro package statement member
  rw [imports] at member
  obtain ⟨find, among, same⟩ := List.mem_map.mp member
  obtain ⟨known, external⟩ := List.mem_filter.mp among
  obtain ⟨rfl, rfl⟩ := Prod.mk.inj same
  obtain ⟨nonempty, free⟩ := scans.names_package find known
  refine ⟨?_, nonempty, free, by simpa [ImportFind.isExternal] using external⟩
  obtain ⟨earlier, later, rfl⟩ := List.append_of_mem known
  refine ⟨earlier.flatMap ImportFind.covers ++ find.passed, later.flatMap ImportFind.covers ++ last, ?_⟩
  rw [scans.text_eq]
  simp [ImportFind.covers]

/-- A relative import takes the text up to its closing quotation mark, whichever mark has opened. -/
example : externalImports "import a from './a\" import b from 'b'" = [("b".toList, "import b from 'b'".toList)] := by
  decide

end ProjectSurvey
