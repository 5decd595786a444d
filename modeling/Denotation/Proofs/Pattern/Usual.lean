import Denotation.Naming
import Denotation.Naming.UsualPatterns
import Denotation.Proofs.Pattern.Search

/-!
# The usual patterns in the engine in use

All usual patterns begin at the start of the text and ask for its first character.  Some ask in addition
that nothing but marks follows up to the end.  By where they lead, such patterns are found only where the
text begins, and there exactly if the letter and the marks are.
-/

namespace Denotation.Pattern

variable {pattern : Pattern} {letters set : CharSet} {start stop : Point} {rest : List Char}

def nameMark : Pattern := .oneOf (.unions [.range '0' '9', .singleton '_', .singleton '\''])

def markedLetter (letters : CharSet) : Pattern :=
  sequence [.onlyAt .textStart, .oneOf letters, star nameMark, .onlyAt .textEnd]

def initialLetter (letters : CharSet) : Pattern :=
  sequence [.onlyAt .textStart, .oneOf letters]

theorem leads_textStart : (onlyAt .textStart).Leads start stop ↔ stop = start ∧ start.before = none := by
  rw [Leads, PlaceTest.holds, Point.place, Option.isNone_iff_eq_none]

theorem leads_textEnd : (onlyAt .textEnd).Leads start stop ↔ stop = start ∧ start.rest = [] := by
  rw [Leads, PlaceTest.holds, Point.place, Option.isNone_iff_eq_none, List.head?_eq_none_iff]

theorem exists_leads_star_oneOf :
    (∃ stop, (star (oneOf set)).Leads start stop ∧ stop.rest = rest) ↔
      ∃ chars, start.rest = chars ++ rest ∧ ∀ char ∈ chars, set.contains char = true := by
  constructor
  · intro leads
    obtain ⟨stop, ⟨count, -, -, repeats⟩, rfl⟩ := leads
    induction count generalizing start with
    | zero => exact ⟨[], congrArg Point.rest repeats.symm, nofun⟩
    | succ count induction =>
        obtain ⟨middle, ⟨char, rest, follows, member, rfl⟩, others⟩ := repeats
        obtain ⟨chars, split, members⟩ := induction others
        refine ⟨char :: chars, ?_, List.forall_mem_cons.mpr ⟨member, members⟩⟩
        exact follows.trans (congrArg (char :: ·) split)
  · intro follow
    obtain ⟨chars, split, members⟩ := follow
    induction chars generalizing start with
    | nil => exact ⟨start, ⟨0, Nat.le_refl 0, nofun, rfl⟩, split⟩
    | cons char chars induction =>
        obtain ⟨member, members⟩ := List.forall_mem_cons.mp members
        let next : Point := ⟨some char, chars ++ rest⟩
        have following : next.rest = chars ++ rest := rfl
        obtain ⟨stop, ⟨count, -, -, repeats⟩, ends⟩ := induction following members
        refine ⟨stop, ⟨count + 1, Nat.zero_le _, nofun, next, ?_, repeats⟩, ends⟩
        exact ⟨char, chars ++ rest, split, member, rfl⟩

/-- A pattern that begins at the start of the text is not looked for anywhere else. -/
theorem occursAfter_iff_of_anchored {text : List Char}
    (anchored : ∀ start stop, pattern.Leads start stop → start.before = none) :
    pattern.OccursAfter none text ↔ ∃ stop, pattern.Leads ⟨none, text⟩ stop := by
  constructor
  · intro occurs
    obtain ⟨skipped, rest, rfl, stop, leads⟩ := occurs
    have noneBefore : skipped.getLast?.or none = none := anchored _ _ leads
    rw [Option.or_none, List.getLast?_eq_none_iff] at noneBefore
    subst noneBefore
    exact ⟨stop, leads⟩
  · intro leads
    exact ⟨[], text, rfl, leads⟩

theorem contains_nameMarks (char : Char) :
    (CharSet.unions [.range '0' '9', .singleton '_', .singleton '\'']).contains char = true ↔
      IsNameMark char := by
  simp [CharSet.contains_unions, CharSet.contains_singleton, CharSet.contains, IsNameMark]

theorem exists_leads_markedLetter :
    (∃ stop, (markedLetter letters).Leads start stop) ↔
      start.before = none ∧ BeginsWith (letters.contains · = true) IsNameMark start.rest := by
  constructor
  · intro leads
    obtain ⟨stop, _, anchored, _, ⟨letter, later, follows, found, rfl⟩, last, marked, _, ends, -⟩ := leads
    obtain ⟨rfl, noneBefore⟩ := leads_textStart.mp anchored
    obtain ⟨-, atEnd⟩ := leads_textEnd.mp ends
    obtain ⟨marks, split, areMarks⟩ := exists_leads_star_oneOf.mp ⟨last, marked, atEnd⟩
    rw [List.append_nil] at split
    subst split
    exact ⟨noneBefore, letter, _, follows, found,
      fun char member => (contains_nameMarks char).mp (areMarks char member)⟩
  · intro begins
    obtain ⟨noneBefore, letter, marks, follows, found, areMarks⟩ := begins
    let afterLetter : Point := ⟨some letter, marks⟩
    have split : afterLetter.rest = marks ++ [] := (List.append_nil marks).symm
    obtain ⟨last, marked, atEnd⟩ := exists_leads_star_oneOf.mpr
      ⟨marks, split, fun char member => (contains_nameMarks char).mpr (areMarks char member)⟩
    exact ⟨last, start, leads_textStart.mpr ⟨rfl, noneBefore⟩, afterLetter,
      ⟨letter, marks, follows, found, rfl⟩, last, marked, last, leads_textEnd.mpr ⟨rfl, atEnd⟩, rfl⟩

theorem exists_leads_initialLetter :
    (∃ stop, (initialLetter letters).Leads start stop) ↔
      start.before = none ∧ BeginsWith (letters.contains · = true) (fun _ => True) start.rest := by
  constructor
  · intro leads
    obtain ⟨stop, _, anchored, _, ⟨letter, later, follows, found, rfl⟩, -⟩ := leads
    obtain ⟨rfl, noneBefore⟩ := leads_textStart.mp anchored
    exact ⟨noneBefore, letter, later, follows, found, fun _ _ => trivial⟩
  · intro begins
    obtain ⟨noneBefore, letter, later, follows, found, -⟩ := begins
    exact ⟨⟨some letter, later⟩, start, leads_textStart.mpr ⟨rfl, noneBefore⟩, _,
      ⟨letter, later, follows, found, rfl⟩, rfl⟩

theorem occursIn_iff_of_exists_leads {isLetter allowed : Char → Prop} (fit : pattern.CountsFit)
    (leads : ∀ start : Point, (∃ stop, pattern.Leads start stop) ↔
      start.before = none ∧ BeginsWith isLetter allowed start.rest) (text : String) :
    pattern.occursIn text = true ↔ BeginsWith isLetter allowed text.toList := by
  have anchored : ∀ start stop, pattern.Leads start stop → start.before = none :=
    fun start stop leadsTo => ((leads start).mp ⟨stop, leadsTo⟩).1
  rw [occursIn_iff fit, occursAfter_iff_of_anchored anchored, leads]
  exact and_iff_right rfl

theorem finds_markedLetter {written : String} {isLetter : Char → Prop}
    (reads : ofString? written = some (markedLetter letters))
    (contains : ∀ char, letters.contains char = true ↔ isLetter char) :
    PatternEngine.Finds written (MarkedLetter isLetter) := by
  intro pattern taken text
  cases reads.symm.trans taken
  have fit : (markedLetter letters).CountsFit := by simp [markedLetter, sequence, star, nameMark, CountsFit]
  have sameLetters : (letters.contains · = true) = isLetter := funext fun char => propext (contains char)
  rw [exists_markedLetter_iff, ← sameLetters]
  exact occursIn_iff_of_exists_leads fit (fun _ => exists_leads_markedLetter) text

theorem finds_initialLetter {written : String} {isLetter : Char → Prop}
    (reads : ofString? written = some (initialLetter letters))
    (contains : ∀ char, letters.contains char = true ↔ isLetter char) :
    PatternEngine.Finds written (InitialLetter isLetter) := by
  intro pattern taken text
  cases reads.symm.trans taken
  have fit : (initialLetter letters).CountsFit := by simp [initialLetter, sequence, CountsFit]
  have sameLetters : (letters.contains · = true) = isLetter := funext fun char => propext (contains char)
  rw [exists_initialLetter_iff, ← sameLetters]
  exact occursIn_iff_of_exists_leads fit (fun _ => exists_leads_initialLetter) text

theorem contains_range {first last char : Char} :
    (CharSet.range first last).contains char = true ↔ first ≤ char ∧ char ≤ last := by
  rw [CharSet.contains, Bool.and_eq_true, decide_eq_true_iff, decide_eq_true_iff]

/-- The texts of the usual patterns are read as they are meant, and the search finds what they match. -/
theorem findsUsualPatterns : PatternEngine.FindsUsualPatterns where
  entityVariables := by
    have reads : ofString? "^[u-z][0-9_']*$" = some (markedLetter (.range 'u' 'z')) := by decide +kernel
    exact finds_markedLetter reads fun _ => contains_range
  predicateVariables := by
    have reads : ofString? "^[X-Z][0-9_']*$" = some (markedLetter (.range 'X' 'Z')) := by decide +kernel
    exact finds_markedLetter reads fun _ => contains_range
  entities := by
    have reads : ofString? "^[a-z]" = some (initialLetter (.range 'a' 'z')) := by decide +kernel
    exact finds_initialLetter reads fun _ => contains_range
  relations := by
    have reads : ofString? "^R[0-9_']*$" = some (markedLetter (.singleton 'R')) := by decide +kernel
    refine finds_markedLetter reads fun char => ?_
    rw [CharSet.contains_singleton, decide_eq_true_iff]
  predicates := by
    have reads : ofString? "^[A-Z]" = some (initialLetter (.range 'A' 'Z')) := by decide +kernel
    exact finds_initialLetter reads fun _ => contains_range

end Denotation.Pattern
