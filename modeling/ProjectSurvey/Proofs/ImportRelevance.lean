import Mathlib.Data.List.Infix
import ProjectSurvey.Proofs.ImportScan
import ProjectSurvey.Proofs.LoweredOccurrences
import ProjectSurvey.Search

/-! The imports that have to do with a category. A package stands in its statement between quotation marks with a
blank in front of them, so that no letter is next to it, and its small form stands in that of the statement. To look
for the category in the name of the package finds nothing that is not found in the statement. -/

namespace ProjectSurvey

def blankCodes : List Nat :=
  [0x09, 0x0A, 0x0B, 0x0C, 0x0D, 0x1C, 0x1D, 0x1E, 0x1F, 0x20, 0x85, 0xA0, 0x1680, 0x2000, 0x2001, 0x2002, 0x2003,
    0x2004, 0x2005, 0x2006, 0x2007, 0x2008, 0x2009, 0x200A, 0x2028, 0x2029, 0x202F, 0x205F, 0x3000]

theorem mem_blankCodes {c : Char} (blank : isBlank c = true) : c.toNat ∈ blankCodes := by
  simp only [isBlank, Bool.or_eq_true, Bool.and_eq_true, decide_eq_true_eq, beq_iff_eq] at blank
  simp only [blankCodes, List.mem_cons, List.not_mem_nil, or_false]
  omega

theorem casedBehind_blank {c : Char} (blank : isBlank c = true) (afterCased : Bool) :
    Text.casedBehind afterCased c = false := by
  have all : ∀ n ∈ blankCodes, Text.isCaseIgnorable (Char.ofNat n) = false ∧ Text.isCased (Char.ofNat n) = false := by
    decide +kernel
  have here := all c.toNat (mem_blankCodes blank)
  rw [Char.ofNat_toNat] at here
  rw [Text.casedBehind, here.1, here.2]
  rfl

theorem IsQuote.casedBehind {c : Char} (quote : IsQuote c) : Text.casedBehind false c = false := by
  rcases quote with rfl | rfl <;> decide

theorem IsQuote.casedAhead {c : Char} (quote : IsQuote c) : Text.casedAhead [c] = false := by
  rcases quote with rfl | rfl <;> decide

theorem casedAfter_quote {blank opening : Char} (white : isBlank blank = true) (opens : IsQuote opening)
    (before : Text) : Text.casedAfter false (before ++ [blank, opening]) = false := by
  rw [Text.casedAfter, List.foldl_append, List.foldl_cons, List.foldl_cons, List.foldl_nil,
    casedBehind_blank white, opens.casedBehind]

variable {text blanks between source package statement : Text}

/-- No letter is next to a package where it is named. -/
theorem IsImport.standsApart (found : IsImport blanks between source package) :
    package.StandsApart (importText blanks between source) := by
  obtain ⟨gap, opening, closing, names, rfl⟩ := found.named
  obtain none | ⟨gap, blank, rfl⟩ := List.eq_nil_or_concat gap
  · exact absurd none names.apart
  · have white : isBlank blank = true := names.blank blank (by simp)
    refine ⟨"import".toList ++ (blanks ++ (between ++ ("from".toList ++ gap))) ++ [blank, opening], [closing], ?_,
      casedAfter_quote white names.opens _, names.closes.casedAhead⟩
    simp [importText_eq, sourceText_eq]

theorem ScansImports.are_imports {finds : List ImportFind} {last : Text} (scans : ScansImports text finds last) :
    ∀ find ∈ finds, ∃ blanks between source, IsImport blanks between source find.package ∧
      find.statement = importText blanks between source := by
  induction scans with
  | done nowhere => exact List.forall_mem_nil _
  | find whole passes found first onward ih => exact List.forall_mem_cons.mpr ⟨⟨_, _, _, found, rfl⟩, ih⟩

/-- The small form of a package stands in that of the statement that imports it. -/
theorem package_lower_inside (member : (package, statement) ∈ externalImports text) :
    package.lower <:+: statement.lower := by
  obtain ⟨finds, last, scans⟩ := exists_scan text
  rw [scans.externalImports] at member
  obtain ⟨find, among, told⟩ := List.mem_map.mp member
  obtain ⟨rfl, rfl⟩ := Prod.mk.inj told
  obtain ⟨blanks, between, source, found, whole⟩ := scans.are_imports find (List.mem_filter.mp among).1
  rw [whole]
  exact Text.lower_infix_of_standsApart found.standsApart

theorem isRelevant_iff {category : Text} (member : (package, statement) ∈ externalImports text) :
    isRelevant category package statement = true ↔
      category <:+: statement.lower ∨ ∃ word ∈ packageAliases category, word <:+: package.lower := by
  simp only [isRelevant, Text.anyOccursIn, Bool.or_eq_true, List.any_eq_true, Text.occursIn_iff]
  refine or_congr_left (or_iff_right_of_imp fun inside => ?_)
  exact inside.trans (package_lower_inside member)

/-- Where the category stands in the name of a package it stands in the statement too, all in small letters. So the
relevant imports are those whose statement has the category in it, or whose package has another word for it. -/
theorem relevantImports_by_statement (text file category : Text) :
    (∀ package statement, (package, statement) ∈ externalImports text →
      category.lower <:+: package.lower → category.lower <:+: statement.lower) ∧
    relevantImports text file category =
      ((externalImports text).filter fun found => category.lower <:+: found.2.lower ∨
        ∃ word ∈ packageAliases category.lower, word <:+: found.1.lower).map
          fun found => ⟨found.1, file, found.2⟩ := by
  constructor
  · intro package statement member inside
    exact inside.trans (package_lower_inside member)
  · rw [relevantImports]
    congr 1
    apply List.filter_congr
    intro found member
    rw [Bool.eq_iff_iff, decide_eq_true_eq]
    exact isRelevant_iff member

/-- A package that ends in a sigma has the final one in its statement too, although a letter follows the closing
quotation mark in the text. -/
theorem relevantImports_by_statement_final_sigma :
    let text : Text := "import Α from 'ΒΣ'x"
    let statement : Text := "import Α from 'ΒΣ'"
    ("ΒΣ".toList, statement) ∈ externalImports text ∧ Text.lower "ΒΣ" <:+: Text.lower "ΒΣ" ∧
      Text.lower "ΒΣ" <:+: statement.lower ∧ ¬ Text.lower "ΒΣ" <:+: text.lower ∧
      relevantImports text "a.js" "ΒΣ" = [⟨"ΒΣ", "a.js", statement⟩] := by
  intro text statement
  have member : ("ΒΣ".toList, statement) ∈ externalImports text := by decide +kernel
  obtain ⟨subsumed, filtered⟩ := relevantImports_by_statement text "a.js" "ΒΣ"
  exact ⟨member, List.infix_rfl, subsumed _ _ member List.infix_rfl, by decide +kernel,
    filtered.trans (by decide +kernel)⟩

end ProjectSurvey
