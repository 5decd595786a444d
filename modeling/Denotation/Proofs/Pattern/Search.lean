import Mathlib.Data.List.Basic
import Denotation.Pattern.Meaning

/-!
# The search finds what matches

A pattern leads from a point either nowhere else, if it matches the empty stretch there, or past the next
character, and then one of its residuals leads on from there.  So a search that reads the text once, keeps what
is left of every attempt and begins a new attempt at every point, finds that a pattern occurs exactly if it
does.

The delicate construct is the repetition.  Before the match that takes the next character there may be any
number of empty ones, so where an empty match is possible the least number is no obstacle: it can be reached
with empty matches, as long as it is not above the greatest number.
-/

namespace Denotation

variable {step : Point → Point → Prop} {start middle stop : Point} {count : Nat}

theorem Repeats.add_still (still : step start start) (repeats : Repeats step count start stop)
    (more : Nat) : Repeats step (count + more) start stop := by
  induction more with
  | zero => exact repeats
  | succ more induction => exact ⟨start, still, induction⟩

namespace Pattern

variable {pattern body residual : Pattern} {pending : List Pattern} {before : Option Char} {char : Char}
  {rest : List Char} {least : Nat} {most : Option Nat}

/-- The pattern leads past the next character, by one of its residuals. -/
def LeadsOn (pattern : Pattern) (start stop : Point) : Prop :=
  ∃ char rest, start.rest = char :: rest ∧
    ∃ residual ∈ pattern.residuals start.before char, residual.Leads ⟨some char, rest⟩ stop

/-- Where the pattern leads is told by `matchesEmpty` and `residuals`. -/
def Unfolds (pattern : Pattern) : Prop :=
  ∀ start stop, pattern.Leads start stop ↔
    (stop = start ∧ pattern.matchesEmpty start.place = true) ∨ pattern.LeadsOn start stop

theorem Unfolds.of_matchesEmpty (unfolds : pattern.Unfolds)
    (isEmpty : pattern.matchesEmpty start.place = true) : pattern.Leads start start :=
  (unfolds start start).mpr (Or.inl ⟨rfl, isEmpty⟩)

theorem Unfolds.of_leadsOn (unfolds : pattern.Unfolds) (leadsOn : pattern.LeadsOn start stop) :
    pattern.Leads start stop :=
  (unfolds start stop).mpr (Or.inr leadsOn)

theorem place_of_rest (follows : start.rest = char :: rest) : start.place = ⟨start.before, some char⟩ := by
  rw [Point.place, follows, List.head?_cons]

theorem leadsOn_oneOf {set : CharSet} : (oneOf set).LeadsOn start stop ↔ (oneOf set).Leads start stop := by
  constructor
  · intro leadsOn
    obtain ⟨char, rest, follows, residual, member, leads⟩ := leadsOn
    rw [residuals] at member
    split at member
    · rename_i contained
      cases List.mem_singleton.mp member
      exact ⟨char, rest, follows, contained, leads⟩
    · cases member
  · intro leads
    obtain ⟨char, rest, follows, contained, same⟩ := leads
    refine ⟨char, rest, follows, .empty, ?_, same⟩
    rw [residuals, if_pos contained, List.mem_singleton]

theorem leadsOn_seq {first second : Pattern} :
    (seq first second).LeadsOn start stop ↔
      (∃ middle, first.LeadsOn start middle ∧ second.Leads middle stop) ∨
        (first.matchesEmpty start.place = true ∧ second.LeadsOn start stop) := by
  constructor
  · intro leadsOn
    obtain ⟨char, rest, follows, residual, member, leads⟩ := leadsOn
    rw [residuals, ← place_of_rest follows] at member
    rcases List.mem_append.mp member with ofFirst | ofSecond
    · obtain ⟨taken, takenOfFirst, rfl⟩ := List.mem_map.mp ofFirst
      obtain ⟨middle, byTaken, bySecond⟩ := leads
      exact Or.inl ⟨middle, ⟨char, rest, follows, taken, takenOfFirst, byTaken⟩, bySecond⟩
    · split at ofSecond
      · rename_i isEmpty
        exact Or.inr ⟨isEmpty, char, rest, follows, residual, ofSecond, leads⟩
      · cases ofSecond
  · intro outcome
    rcases outcome with ⟨middle, ⟨char, rest, follows, taken, takenOfFirst, byTaken⟩, bySecond⟩ |
      ⟨isEmpty, char, rest, follows, residual, ofSecond, leads⟩
    · refine ⟨char, rest, follows, .seq taken second, List.mem_append_left _ ?_, middle, byTaken, bySecond⟩
      exact List.mem_map_of_mem takenOfFirst
    · refine ⟨char, rest, follows, residual, List.mem_append_right _ ?_, leads⟩
      rwa [← place_of_rest follows, if_pos isEmpty]

theorem leadsOn_alt {left right : Pattern} :
    (alt left right).LeadsOn start stop ↔ left.LeadsOn start stop ∨ right.LeadsOn start stop := by
  constructor
  · intro leadsOn
    obtain ⟨char, rest, follows, residual, member, leads⟩ := leadsOn
    rcases List.mem_append.mp member with ofLeft | ofRight
    · exact Or.inl ⟨char, rest, follows, residual, ofLeft, leads⟩
    · exact Or.inr ⟨char, rest, follows, residual, ofRight, leads⟩
  · intro outcome
    rcases outcome with ⟨char, rest, follows, residual, member, leads⟩ |
      ⟨char, rest, follows, residual, member, leads⟩
    · exact ⟨char, rest, follows, residual, List.mem_append_left _ member, leads⟩
    · exact ⟨char, rest, follows, residual, List.mem_append_right _ member, leads⟩

theorem leadsOn_repeated :
    (repeated body least most).LeadsOn start stop ↔
      ∃ middle later, body.LeadsOn start middle ∧ Repeats body.Leads later middle stop ∧
        (body.matchesEmpty start.place = true ∨ least ≤ later + 1) ∧ ∀ bound ∈ most, later < bound := by
  constructor
  · intro leadsOn
    obtain ⟨char, rest, follows, residual, member, leads⟩ := leadsOn
    rw [residuals, ← place_of_rest follows] at member
    split at member
    · cases member
    · rename_i someAllowed
      obtain ⟨taken, takenOfBody, rfl⟩ := List.mem_map.mp member
      obtain ⟨middle, byTaken, later, enough, notMore, following⟩ := leads
      refine ⟨middle, later, ⟨char, rest, follows, taken, takenOfBody, byTaken⟩, following, ?_, ?_⟩
      · split at enough
        · rename_i isEmpty
          exact Or.inl isEmpty
        · exact Or.inr (by omega)
      · intro bound isMost
        have below := notMore (bound - 1) (Option.mem_map_of_mem _ isMost)
        have positive : bound ≠ 0 := fun isZero => someAllowed (isZero ▸ isMost)
        omega
  · intro outcome
    obtain ⟨middle, later, leadsOn, following, enough, notMore⟩ := outcome
    obtain ⟨char, rest, follows, taken, takenOfBody, byTaken⟩ := leadsOn
    have someAllowed : most ≠ some 0 := fun isZero => Nat.not_lt_zero later (notMore 0 isZero)
    refine ⟨char, rest, follows, .seq taken (.repeated body
      (if body.matchesEmpty start.place then 0 else least - 1) (most.map (· - 1))), ?_,
      middle, byTaken, later, ?_, ?_, following⟩
    · rw [residuals, if_neg someAllowed, ← place_of_rest follows]
      exact List.mem_map_of_mem takenOfBody
    · split
      · exact Nat.zero_le later
      · rename_i notEmpty
        have few := enough.resolve_left notEmpty
        omega
    · intro bound isMost
      obtain ⟨greatest, isGreatest, rfl⟩ := Option.map_eq_some_iff.mp isMost
      have below := notMore greatest isGreatest
      omega

theorem unfolds_oneOf (set : CharSet) : (oneOf set).Unfolds := by
  intro start stop
  rw [leadsOn_oneOf, matchesEmpty]
  simp

theorem unfolds_seq {first second : Pattern} (firstUnfolds : first.Unfolds)
    (secondUnfolds : second.Unfolds) : (seq first second).Unfolds := by
  intro start stop
  rw [leadsOn_seq, matchesEmpty, Bool.and_eq_true]
  constructor
  · intro leads
    obtain ⟨middle, byFirst, bySecond⟩ := leads
    rcases (firstUnfolds start middle).mp byFirst with ⟨rfl, firstEmpty⟩ | byFirst
    · rcases (secondUnfolds middle stop).mp bySecond with ⟨same, secondEmpty⟩ | bySecond
      · exact Or.inl ⟨same, firstEmpty, secondEmpty⟩
      · exact Or.inr (Or.inr ⟨firstEmpty, bySecond⟩)
    · exact Or.inr (Or.inl ⟨middle, byFirst, bySecond⟩)
  · intro outcome
    rcases outcome with ⟨rfl, firstEmpty, secondEmpty⟩ | ⟨middle, byFirst, bySecond⟩ | ⟨firstEmpty, bySecond⟩
    · exact ⟨stop, firstUnfolds.of_matchesEmpty firstEmpty, secondUnfolds.of_matchesEmpty secondEmpty⟩
    · exact ⟨middle, firstUnfolds.of_leadsOn byFirst, bySecond⟩
    · exact ⟨start, firstUnfolds.of_matchesEmpty firstEmpty, secondUnfolds.of_leadsOn bySecond⟩

theorem unfolds_alt {left right : Pattern} (leftUnfolds : left.Unfolds)
    (rightUnfolds : right.Unfolds) : (alt left right).Unfolds := by
  intro start stop
  rw [Leads, leftUnfolds, rightUnfolds, leadsOn_alt, matchesEmpty, Bool.or_eq_true]
  tauto

/-- Matches in a row are all empty, or some of them are and the next one takes the next character. -/
theorem leadsOn_of_repeats (bodyUnfolds : body.Unfolds) (repeats : Repeats body.Leads count start stop) :
    (stop = start ∧ (count = 0 ∨ body.matchesEmpty start.place = true)) ∨
      ∃ middle earlier later, count = earlier + 1 + later ∧
        (earlier = 0 ∨ body.matchesEmpty start.place = true) ∧
        body.LeadsOn start middle ∧ Repeats body.Leads later middle stop := by
  induction count with
  | zero => exact Or.inl ⟨repeats, Or.inl rfl⟩
  | succ count induction =>
      obtain ⟨middle, first, others⟩ := repeats
      rcases (bodyUnfolds start middle).mp first with ⟨rfl, isEmpty⟩ | leadsOn
      · rcases induction others with ⟨same, -⟩ | ⟨reached, earlier, later, split, -, leadsOn, following⟩
        · exact Or.inl ⟨same, Or.inr isEmpty⟩
        · exact Or.inr ⟨reached, earlier + 1, later, by omega, Or.inr isEmpty, leadsOn, following⟩
      · exact Or.inr ⟨middle, 0, count, by omega, Or.inl rfl, leadsOn, others⟩

theorem unfolds_repeated (bodyUnfolds : body.Unfolds) (fit : ∀ bound ∈ most, least ≤ bound) :
    (repeated body least most).Unfolds := by
  intro start stop
  rw [leadsOn_repeated, matchesEmpty, Bool.or_eq_true, beq_iff_eq]
  constructor
  · intro leads
    obtain ⟨count, enough, notMore, repeats⟩ := leads
    rcases leadsOn_of_repeats bodyUnfolds repeats with
      ⟨same, allEmpty⟩ | ⟨middle, earlier, later, split, earlierEmpty, leadsOn, following⟩
    · exact Or.inl ⟨same, allEmpty.imp_left fun isZero => by omega⟩
    · refine Or.inr ⟨middle, later, leadsOn, following, ?_, fun bound isMost => ?_⟩
      · rcases earlierEmpty with isZero | isEmpty
        · exact Or.inr (by omega)
        · exact Or.inl isEmpty
      · have below := notMore bound isMost
        omega
  · intro outcome
    rcases outcome with ⟨rfl, allEmpty⟩ | ⟨middle, later, leadsOn, following, enough, notMore⟩
    · have noMatch : Repeats body.Leads 0 stop stop := rfl
      rcases allEmpty with rfl | isEmpty
      · exact ⟨0, Nat.le_refl 0, fun _ _ => Nat.zero_le _, noMatch⟩
      · have repeats := noMatch.add_still (bodyUnfolds.of_matchesEmpty isEmpty) least
        rw [Nat.zero_add] at repeats
        exact ⟨least, Nat.le_refl least, fit, repeats⟩
    · have repeats : Repeats body.Leads (later + 1) start stop :=
        ⟨middle, bodyUnfolds.of_leadsOn leadsOn, following⟩
      rcases enough with isEmpty | enough
      · -- Empty matches in front make up for what is missing to the least number.
        let missing := least - (later + 1)
        have repeats := repeats.add_still (bodyUnfolds.of_matchesEmpty isEmpty) missing
        refine ⟨later + 1 + missing, by omega, fun bound isMost => ?_, repeats⟩
        have below := notMore bound isMost
        have ordered := fit bound isMost
        omega
      · exact ⟨later + 1, enough, notMore, repeats⟩

theorem unfolds (fit : pattern.CountsFit) : pattern.Unfolds := by
  induction pattern with
  | empty =>
      intro start stop
      simp [Leads, matchesEmpty, LeadsOn, residuals]
  | oneOf set => exact unfolds_oneOf set
  | onlyAt test =>
      intro start stop
      simp [Leads, matchesEmpty, LeadsOn, residuals]
  | seq _ _ firstIH secondIH => exact unfolds_seq (firstIH fit.1) (secondIH fit.2)
  | alt _ _ leftIH rightIH => exact unfolds_alt (leftIH fit.1) (rightIH fit.2)
  | repeated _ _ _ bodyIH => exact unfolds_repeated (bodyIH fit.2) fit.1

theorem countsFit_of_mem_residuals (fit : pattern.CountsFit)
    (member : residual ∈ pattern.residuals before char) : residual.CountsFit := by
  induction pattern generalizing residual with
  | empty => cases member
  | oneOf set =>
      rw [residuals] at member
      split at member
      · cases List.mem_singleton.mp member
        trivial
      · cases member
  | onlyAt _ => cases member
  | seq first second firstIH secondIH =>
      rcases List.mem_append.mp member with ofFirst | ofSecond
      · obtain ⟨taken, takenOfFirst, rfl⟩ := List.mem_map.mp ofFirst
        exact ⟨firstIH fit.1 takenOfFirst, fit.2⟩
      · split at ofSecond
        · exact secondIH fit.2 ofSecond
        · cases ofSecond
  | alt left right leftIH rightIH =>
      rcases List.mem_append.mp member with ofLeft | ofRight
      · exact leftIH fit.1 ofLeft
      · exact rightIH fit.2 ofRight
  | repeated body least most bodyIH =>
      rw [residuals] at member
      split at member
      · cases member
      · obtain ⟨taken, takenOfBody, rfl⟩ := List.mem_map.mp member
        refine ⟨bodyIH fit.2 takenOfBody, fun bound isMost => ?_, fit.2⟩
        obtain ⟨greatest, isGreatest, rfl⟩ := Option.map_eq_some_iff.mp isMost
        have ordered := fit.1 greatest isGreatest
        split <;> omega

theorem occursAfter_iff {text : List Char} :
    pattern.OccursAfter before text ↔
      (∃ stop, pattern.Leads ⟨before, text⟩ stop) ∨
        ∃ char rest, text = char :: rest ∧ pattern.OccursAfter (some char) rest := by
  have before_skipped (char : Char) (skipped : List Char) :
      (char :: skipped).getLast?.or before = skipped.getLast?.or (some char) := by
    cases skipped with
    | nil => rfl
    | cons next later =>
        rw [List.getLast?_cons_cons, List.getLast?_cons, Option.some_or, Option.some_or]
  constructor
  · intro occurs
    obtain ⟨skipped, rest, split, stop, leads⟩ := occurs
    cases skipped with
    | nil => exact Or.inl ⟨stop, split ▸ leads⟩
    | cons char skipped =>
        rw [before_skipped] at leads
        exact Or.inr ⟨char, skipped ++ rest, split, skipped, rest, rfl, stop, leads⟩
  · intro occurs
    rcases occurs with leads | ⟨char, _, rfl, skipped, rest, rfl, stop, leads⟩
    · exact ⟨[], text, rfl, leads⟩
    · rw [← before_skipped] at leads
      exact ⟨char :: skipped, rest, rfl, stop, leads⟩

theorem exists_leads_nil_iff (fit : pattern.CountsFit) :
    (∃ stop, pattern.Leads ⟨before, []⟩ stop) ↔ pattern.matchesEmpty ⟨before, none⟩ = true := by
  constructor
  · intro leads
    obtain ⟨stop, leads⟩ := leads
    rcases (unfolds fit _ stop).mp leads with ⟨-, isEmpty⟩ | ⟨_, _, atEnd, -⟩
    · exact isEmpty
    · cases atEnd
  · intro isEmpty
    exact ⟨_, (unfolds fit).of_matchesEmpty isEmpty⟩

theorem exists_leads_cons_iff (fit : pattern.CountsFit) :
    (∃ stop, pattern.Leads ⟨before, char :: rest⟩ stop) ↔
      pattern.matchesEmpty ⟨before, some char⟩ = true ∨
        ∃ residual ∈ pattern.residuals before char, ∃ stop, residual.Leads ⟨some char, rest⟩ stop := by
  constructor
  · intro leads
    obtain ⟨stop, leads⟩ := leads
    rcases (unfolds fit _ stop).mp leads with ⟨-, isEmpty⟩ | ⟨_, _, follows, residual, member, leads⟩
    · exact Or.inl isEmpty
    · cases follows
      exact Or.inr ⟨residual, member, stop, leads⟩
  · intro outcome
    rcases outcome with isEmpty | ⟨residual, member, stop, leads⟩
    · exact ⟨_, (unfolds fit).of_matchesEmpty isEmpty⟩
    · exact ⟨stop, (unfolds fit).of_leadsOn ⟨char, rest, rfl, residual, member, leads⟩⟩

theorem exists_pending_cons_iff (pendingFit : ∀ attempt ∈ pending, attempt.CountsFit) :
    (∃ attempt ∈ pending, ∃ stop, attempt.Leads ⟨before, char :: rest⟩ stop) ↔
      (∃ attempt ∈ pending, attempt.matchesEmpty ⟨before, some char⟩ = true) ∨
        ∃ residual ∈ pending.flatMap (·.residuals before char),
          ∃ stop, residual.Leads ⟨some char, rest⟩ stop := by
  constructor
  · intro succeeds
    obtain ⟨attempt, isPending, leads⟩ := succeeds
    rcases (exists_leads_cons_iff (pendingFit _ isPending)).mp leads with isEmpty | ⟨residual, member, leads⟩
    · exact Or.inl ⟨attempt, isPending, isEmpty⟩
    · exact Or.inr ⟨residual, List.mem_flatMap.mpr ⟨attempt, isPending, member⟩, leads⟩
  · intro outcome
    rcases outcome with ⟨attempt, isPending, isEmpty⟩ | ⟨residual, member, leads⟩
    · exact ⟨attempt, isPending, (exists_leads_cons_iff (pendingFit _ isPending)).mpr (Or.inl isEmpty)⟩
    · obtain ⟨attempt, isPending, member⟩ := List.mem_flatMap.mp member
      exact ⟨attempt, isPending,
        (exists_leads_cons_iff (pendingFit _ isPending)).mpr (Or.inr ⟨residual, member, leads⟩)⟩

/-- What the search finds: an attempt that is pending and comes to an end, or one that begins later. -/
theorem occursFrom_iff {text : List Char} (fit : pattern.CountsFit)
    (pendingFit : ∀ attempt ∈ pending, attempt.CountsFit) :
    pattern.occursFrom pending before text = true ↔
      (∃ attempt ∈ pending, ∃ stop, attempt.Leads ⟨before, text⟩ stop) ∨
        ∃ char rest, text = char :: rest ∧ pattern.OccursAfter (some char) rest := by
  induction text generalizing pending before with
  | nil =>
      have atEnd : (∃ attempt ∈ pending, ∃ stop, attempt.Leads ⟨before, []⟩ stop) ↔
          ∃ attempt ∈ pending, attempt.matchesEmpty ⟨before, none⟩ = true :=
        exists_congr fun attempt => and_congr_right fun isPending =>
          exists_leads_nil_iff (pendingFit attempt isPending)
      rw [occursFrom, List.any_eq_true, atEnd]
      simp
  | cons char rest restIH =>
      have nextFit : ∀ attempt ∈ (pattern :: pending.flatMap (·.residuals before char)).eraseDups,
          attempt.CountsFit := by
        intro attempt member
        rcases List.mem_cons.mp (List.mem_eraseDups.mp member) with rfl | ofPending
        · exact fit
        · obtain ⟨earlier, isPending, isResidual⟩ := List.mem_flatMap.mp ofPending
          exact countsFit_of_mem_residuals (pendingFit earlier isPending) isResidual
      have later : (∃ first others, char :: rest = first :: others ∧
          pattern.OccursAfter (some first) others) ↔ pattern.OccursAfter (some char) rest := by
        simp
      rw [occursFrom, Bool.or_eq_true, List.any_eq_true, restIH nextFit,
        exists_pending_cons_iff pendingFit, later, occursAfter_iff]
      simp only [List.mem_eraseDups, List.mem_cons, exists_eq_or_imp, or_assoc]
      exact or_congr_right or_left_comm

/-- The search gives the right answer: a pattern is found in a text exactly if it matches a stretch of it. -/
theorem occursIn_iff (fit : pattern.CountsFit) (text : String) :
    pattern.occursIn text = true ↔ pattern.OccursAfter none text.toList := by
  rw [occursIn, occursFrom_iff fit (List.forall_mem_singleton.mpr fit), occursAfter_iff]
  simp only [List.mem_singleton, exists_eq_left]

end Pattern

end Denotation
