import Denotation.Term.Parser
import Denotation.Term.Variables

/-!
# Written forms are read in one way

The written form of a term, in surroundings that ask for its precedence, is read as that term: what is
left are operators at its right edge that wait to be completed, and the sign that comes next completes
them.  These operators ask for at least the precedence that the surroundings asked of the term, so no
opening of the surroundings is ended with them.

So two terms with the same written form have the same skeleton: they differ in nothing but the kinds
and the types of their identifiers.
-/

namespace Denotation

namespace Sign

theorem ofText_append (first second : String) :
    ofText (first ++ second) = ofText first ++ ofText second := by
  simp only [ofText, String.toList_append, List.map_append]

theorem ofChar_of_not_mem {char : Char} (plain : char ∉ Term.signs) : ofChar char = .letter char := by
  unfold ofChar
  split <;> simp_all [Term.signs]

theorem ofText_of_plain {name : String} (plain : IsPlainName name) :
    ofText name = name.toList.map .letter :=
  List.map_congr_left fun char member => ofChar_of_not_mem (plain.2 char member)

theorem ofText_binder_sign (kind : BinderKind) : ofText kind.sign = [.binder kind] := by
  cases kind <;> rfl

theorem ofText_connective_sign (connective : Connective) :
    ofText connective.sign = [.connective connective] := by
  cases connective <;> rfl

end Sign

/-- No operator gives what the function position asks for. -/
theorem Opening.demand_lt_functionPrecedence (opening : Opening) :
    opening.demand < Term.functionPrecedence := by
  cases opening <;> simp [demand, Term.negationPrecedence, Term.equalityPrecedence,
    Term.functionPrecedence]

namespace Scan

/-- The innermost opening asks for no more than the given precedence. -/
def Asks (precedence : Nat) (openings : List Opening) : Prop :=
  ∀ opening ∈ openings.head?, opening.demand ≤ precedence

theorem Asks.mono {low high : Nat} {openings : List Opening} (asks : Asks low openings)
    (le : low ≤ high) : Asks high openings :=
  fun opening innermost => Nat.le_trans (asks opening innermost) le

theorem asks_cons {precedence : Nat} {opening : Opening} {rest : List Opening} :
    Asks precedence (opening :: rest) ↔ opening.demand ≤ precedence := by
  simp [Asks]

theorem settle_of_asks {asked precedence : Nat} {openings : List Opening} (asks : Asks asked openings)
    (lt : asked < precedence) (term : Term) : settle precedence openings term = (openings, term) := by
  cases openings with
  | nil => rfl
  | cons opening rest =>
      have demanded := asks_cons.mp asks
      rw [settle, if_neg (by omega)]

theorem settle_append {precedence : Nat} {pending : List Opening}
    (tight : ∀ opening ∈ pending, precedence ≤ opening.demand) (openings : List Opening) (term : Term) :
    settle precedence (pending ++ openings) term =
      settle precedence openings (pending.foldl (fun term opening => opening.complete term) term) := by
  induction pending generalizing term with
  | nil => rfl
  | cons opening rest restIH =>
      have first : precedence ≤ opening.demand := tight opening List.mem_cons_self
      rw [List.cons_append, settle, if_pos first]
      exact restIH (fun later member => tight later (List.mem_cons_of_mem _ member)) _

/-- A name goes on with every letter. -/
theorem run_letters (openings : List Opening) (name : String) (letters : List Char) :
    run ⟨openings, some (.ident ⟨.var, name, .entity⟩)⟩ (letters.map .letter) =
      some ⟨openings, some (.ident ⟨.var, name ++ String.ofList letters, .entity⟩)⟩ := by
  induction letters generalizing name with
  | nil => simp [run]
  | cons letter rest restIH =>
      have joined : name.push letter ++ String.ofList rest = name ++ String.ofList (letter :: rest) := by
        apply String.toList_inj.mp
        simp
      rw [List.map_cons, run, ← joined]
      exact restIH (name.push letter)

theorem run_name {name : String} (plain : IsPlainName name) (openings : List Opening) :
    run ⟨openings, none⟩ (Sign.ofText name) =
      some ⟨openings, some (.ident ⟨.var, name, .entity⟩)⟩ := by
  rw [Sign.ofText_of_plain plain]
  cases letters : name.toList with
  | nil => exact absurd (String.toList_eq_nil_iff.mp letters) plain.1
  | cons letter rest =>
      have whole : letter.toString ++ String.ofList rest = name := by
        apply String.toList_inj.mp
        simp [letters]
      have first : step ⟨openings, none⟩ (.letter letter) =
          some ⟨openings, some (.ident ⟨.var, letter.toString, .entity⟩)⟩ := rfl
      rw [List.map_cons, run, first, Option.bind_some, run_letters, whole]

/-- From where a term has to begin, the signs give the term, up to operators at its right edge that are
still to be completed.  Each of these asks for the given precedence at least. -/
def ReadsAt (precedence : Nat) (openings : List Opening) (signs : List Sign) (term : Term) : Prop :=
  ∃ pending last, run ⟨openings, none⟩ signs = some ⟨pending ++ openings, some last⟩ ∧
    (∀ opening ∈ pending, max precedence Term.equalityPrecedence ≤ opening.demand) ∧
    pending.foldl (fun last opening => opening.complete last) last = term

namespace ReadsAt

variable {precedence level asked : Nat} {openings : List Opening} {opening : Opening}
  {signs front : List Sign} {term : Term}

theorem of_run (read : run ⟨openings, none⟩ signs = some ⟨openings, some term⟩) :
    ReadsAt precedence openings signs term :=
  ⟨[], term, read, nofun, rfl⟩

theorem mono {low : Nat} (reads : ReadsAt precedence openings signs term) (le : low ≤ precedence) :
    ReadsAt low openings signs term := by
  obtain ⟨pending, last, read, tight, whole⟩ := reads
  refine ⟨pending, last, read, fun opening member => ?_, whole⟩
  have demanded := tight opening member
  omega

/-- A sign that settles no more than the term may leave open gets the whole term. -/
theorem exists_settle (reads : ReadsAt precedence openings signs term)
    (low : level ≤ max precedence Term.equalityPrecedence) (asks : Asks asked openings)
    (lt : asked < level) :
    ∃ rest last, run ⟨openings, none⟩ signs = some ⟨rest, some last⟩ ∧
      settle level rest last = (openings, term) := by
  obtain ⟨pending, last, read, tight, whole⟩ := reads
  refine ⟨pending ++ openings, last, read, ?_⟩
  rw [settle_append fun opening member => Nat.le_trans low (tight opening member), whole]
  exact settle_of_asks asks lt term

/-- An operator that is begun before the signs is completed with the term. -/
theorem complete (begun : run ⟨openings, none⟩ front = some ⟨opening :: openings, none⟩)
    (reads : ReadsAt level (opening :: openings) signs term) (le : precedence ≤ level)
    (tight : max precedence Term.equalityPrecedence ≤ opening.demand) :
    ReadsAt precedence openings (front ++ signs) (opening.complete term) := by
  obtain ⟨pending, last, read, pendingTight, whole⟩ := reads.mono le
  refine ⟨pending ++ [opening], last, ?_, fun other member => ?_, ?_⟩
  · rw [run_append, begun, Option.bind_some, read, List.append_assoc]
    rfl
  · rcases List.mem_append.mp member with inPending | same
    · exact pendingTight other inPending
    · rw [List.mem_singleton.mp same]
      exact tight
  · rw [List.foldl_append, whole]
    rfl

/-- A closing sign ends all that is left open in the brackets. -/
theorem exists_settle_enclosed (reads : ReadsAt precedence (opening :: openings) signs term)
    (bracket : opening.demand = 0) :
    ∃ rest last, run ⟨opening :: openings, none⟩ signs = some ⟨rest, some last⟩ ∧
      settle Term.equalityPrecedence rest last = (opening :: openings, term) := by
  have asks : Asks 0 (opening :: openings) := asks_cons.mpr (Nat.le_of_eq bracket)
  exact reads.exists_settle (Nat.le_max_right _ _) asks (by decide)

theorem run_group (reads : ReadsAt precedence (.group :: openings) signs term) :
    run ⟨openings, none⟩ ([.openParenthesis] ++ signs ++ [.closeParenthesis]) =
      some ⟨openings, some term⟩ := by
  obtain ⟨rest, last, read, settled⟩ := reads.exists_settle_enclosed rfl
  have opened : run ⟨openings, none⟩ [.openParenthesis] = some ⟨.group :: openings, none⟩ := rfl
  rw [run_append, run_append, opened, Option.bind_some, read, Option.bind_some, run_singleton]
  exact congrArg closeParenthesis settled

theorem run_argument {function : Term}
    (reads : ReadsAt precedence (.argument function :: openings) signs term) :
    run ⟨openings, some function⟩ ([.openParenthesis] ++ signs ++ [.closeParenthesis]) =
      some ⟨openings, some (.app function term)⟩ := by
  obtain ⟨rest, last, read, settled⟩ := reads.exists_settle_enclosed rfl
  have opened : run ⟨openings, some function⟩ [.openParenthesis] =
      some ⟨.argument function :: openings, none⟩ := rfl
  rw [run_append, run_append, opened, Option.bind_some, read, Option.bind_some, run_singleton]
  exact congrArg closeParenthesis settled

theorem run_body {kind : BinderKind} {name : String} (plain : IsPlainName name)
    (reads : ReadsAt precedence (.body kind name :: openings) signs term) :
    run ⟨openings, none⟩
        ([.binder kind] ++ Sign.ofText name ++ [.openBracket] ++ signs ++ [.closeBracket]) =
      some ⟨openings, some (.binder kind ⟨.var, name, .entity⟩ term)⟩ := by
  obtain ⟨rest, last, read, settled⟩ := reads.exists_settle_enclosed rfl
  have begun : run ⟨openings, none⟩ [.binder kind] = some ⟨.binder kind :: openings, none⟩ := rfl
  have opened : run ⟨.binder kind :: openings, some (.ident ⟨.var, name, .entity⟩)⟩ [.openBracket] =
      some ⟨.body kind name :: openings, none⟩ := rfl
  rw [run_append, run_append, run_append, run_append, begun, Option.bind_some, run_name plain,
    Option.bind_some, opened, Option.bind_some, read, Option.bind_some, run_singleton]
  exact congrArg closeBracket settled

theorem run_equal (reads : ReadsAt (Term.equalityPrecedence + 1) openings signs term)
    (asks : Asks Term.equalityPrecedence openings) :
    run ⟨openings, none⟩ (signs ++ [.blank] ++ [.equal] ++ [.blank]) =
      some ⟨.equal term :: openings, none⟩ := by
  obtain ⟨rest, last, read, settled⟩ := reads.exists_settle (Nat.le_max_left _ _) asks (by decide)
  have blank : run ⟨rest, some last⟩ [.blank] = some ⟨rest, some last⟩ := rfl
  have infixed : run ⟨rest, some last⟩ [.equal] = some ⟨.equal term :: openings, none⟩ :=
    (run_singleton _ _).trans (congrArg (infixOperator .equal) settled)
  rw [run_append, run_append, run_append, read, Option.bind_some, blank, Option.bind_some, infixed]
  rfl

theorem run_connective {connective : Connective}
    (reads : ReadsAt Term.equalityPrecedence openings signs term)
    (asks : Asks connective.precedence openings) :
    run ⟨openings, none⟩ (signs ++ [.blank] ++ [.connective connective] ++ [.blank]) =
      some ⟨.binary connective term :: openings, none⟩ := by
  have loose : connective.precedence < Term.equalityPrecedence := by cases connective <;> decide
  obtain ⟨rest, last, read, settled⟩ := reads.exists_settle (Nat.le_max_left _ _) asks loose
  have blank : run ⟨rest, some last⟩ [.blank] = some ⟨rest, some last⟩ := rfl
  have infixed : run ⟨rest, some last⟩ [.connective connective] =
      some ⟨.binary connective term :: openings, none⟩ :=
    (run_singleton _ _).trans (congrArg (infixOperator (.binary connective)) settled)
  rw [run_append, run_append, run_append, read, Option.bind_some, blank, Option.bind_some, infixed]
  rfl

/-- In the function position nothing is left to be completed. -/
theorem run_function (reads : ReadsAt Term.functionPrecedence openings signs term) :
    run ⟨openings, none⟩ signs = some ⟨openings, some term⟩ := by
  obtain ⟨pending, last, read, tight, rfl⟩ := reads
  cases pending with
  | nil => exact read
  | cons opening rest =>
      have demanded := tight opening List.mem_cons_self
      have loose := opening.demand_lt_functionPrecedence
      omega

theorem parenthesized {own : Nat} {text : String}
    (bare : ∀ openings, Asks own openings → ReadsAt own openings (Sign.ofText text) term)
    (asks : Asks precedence openings) :
    ReadsAt precedence openings (Sign.ofText (Term.parenthesized (own < precedence) text)) term := by
  by_cases needed : own < precedence
  · rw [Term.parenthesized, if_pos (decide_eq_true needed), Sign.ofText_append, Sign.ofText_append]
    exact of_run (bare (.group :: openings) (asks_cons.mpr (Nat.zero_le own))).run_group
  · rw [Term.parenthesized, if_neg (by simp [needed])]
    have le := Nat.not_lt.mp needed
    exact (bare openings (asks.mono le)).mono le

end ReadsAt

theorem readsAt_textAt {term : Term} (plain : ∀ name ∈ term.names, IsPlainName name)
    {precedence : Nat} {openings : List Opening} (asks : Asks precedence openings) :
    ReadsAt precedence openings (Sign.ofText (term.textAt precedence)) term.skeleton := by
  -- For all openings, since a part is read inside those that its surroundings begin.
  induction term generalizing precedence openings with
  | ident id => exact .of_run (run_name (plain id.name (List.mem_singleton_self _)) openings)
  | binder kind bound body bodyIH =>
      have namePlain := plain bound.name List.mem_cons_self
      have readsBody := @bodyIH (fun name member => plain name (List.mem_cons_of_mem _ member)) 0
        (.body kind bound.name :: openings) (asks_cons.mpr (Nat.le_refl 0))
      rw [Term.textAt, Sign.ofText_append, Sign.ofText_append, Sign.ofText_append, Sign.ofText_append,
        Sign.ofText_binder_sign]
      exact .of_run (readsBody.run_body namePlain)
  | not operand operandIH =>
      refine .parenthesized (fun openings asks => ?_) asks
      have readsOperand := @operandIH plain Term.negationPrecedence (.not :: openings)
        (asks_cons.mpr (Nat.le_refl _))
      have begun : run ⟨openings, none⟩ (Sign.ofText "¬") = some ⟨.not :: openings, none⟩ := rfl
      rw [Sign.ofText_append]
      exact readsOperand.complete begun (Nat.le_refl _) (by decide)
  | binary connective left right leftIH rightIH =>
      refine .parenthesized (fun openings asks => ?_) asks
      have loose : connective.precedence ≤ Term.equalityPrecedence := by cases connective <;> decide
      have readsLeft := leftIH (fun name member => plain name (List.mem_append_left _ member))
        (asks.mono loose)
      have readsRight := @rightIH (fun name member => plain name (List.mem_append_right _ member))
        Term.equalityPrecedence (.binary connective left.skeleton :: openings)
        (asks_cons.mpr (Nat.le_refl _))
      have tight : max connective.precedence Term.equalityPrecedence ≤ Term.equalityPrecedence :=
        Nat.max_le.mpr ⟨loose, Nat.le_refl _⟩
      rw [Sign.ofText_append, Sign.ofText_append, Sign.ofText_append, Sign.ofText_append,
        Sign.ofText_connective_sign]
      exact readsRight.complete (readsLeft.run_connective asks) loose tight
  | equal left right leftIH rightIH =>
      refine .parenthesized (fun openings asks => ?_) asks
      have readsLeft := leftIH (fun name member => plain name (List.mem_append_left _ member))
        (asks.mono (Nat.le_succ _))
      have readsRight := @rightIH (fun name member => plain name (List.mem_append_right _ member))
        (Term.equalityPrecedence + 1) (.equal left.skeleton :: openings)
        (asks_cons.mpr (Nat.le_refl _))
      have equals : Sign.ofText " = " = [.blank] ++ [.equal] ++ [.blank] := rfl
      rw [Sign.ofText_append, Sign.ofText_append, equals, ← List.append_assoc, ← List.append_assoc]
      exact readsRight.complete (readsLeft.run_equal asks) (Nat.le_succ _) (Nat.le_succ _)
  | app function argument functionIH argumentIH =>
      -- With parentheses or without them, nothing of the function is left open at the argument.
      have functionPlain := fun name member => plain name (List.mem_append_left argument.names member)
      have readsFunction : run ⟨openings, none⟩ (Sign.ofText (Term.parenthesized (!function.standsBare)
          (function.textAt Term.functionPrecedence))) = some ⟨openings, some function.skeleton⟩ := by
        have readsAnywhere : ∀ openings, ReadsAt Term.functionPrecedence openings
            (Sign.ofText (function.textAt Term.functionPrecedence)) function.skeleton := fun openings =>
          functionIH functionPlain fun opening _ =>
            Nat.le_of_lt opening.demand_lt_functionPrecedence
        cases function.standsBare with
        | true => exact (readsAnywhere openings).run_function
        | false =>
            rw [Term.parenthesized, Bool.not_false, if_pos rfl, Sign.ofText_append, Sign.ofText_append]
            exact (readsAnywhere (.group :: openings)).run_group
      have readsArgument := @argumentIH (fun name member => plain name (List.mem_append_right _ member))
        0 (.argument function.skeleton :: openings) (asks_cons.mpr (Nat.le_refl 0))
      rw [Term.textAt, Sign.ofText_append, Sign.ofText_append, Sign.ofText_append, List.append_assoc,
        List.append_assoc]
      refine .of_run ?_
      rw [run_append, readsFunction, Option.bind_some]
      exact readsArgument.run_argument

end Scan

namespace Term

theorem ofText?_text {term : Term} (plain : ∀ name ∈ term.names, IsPlainName name) :
    ofText? term.text = some term.skeleton := by
  have reads : Scan.ReadsAt 0 [] (Sign.ofText term.text) term.skeleton :=
    Scan.readsAt_textAt plain nofun
  obtain ⟨rest, last, read, settled⟩ :=
    reads.exists_settle (Nat.le_max_right _ _) (nofun : Scan.Asks 0 []) (by decide)
  rw [ofText?, Scan.start, read, Option.bind_some, Scan.result?]
  simp only [settled]

example : ofText? "¬(P(x) ∧ q)" =
    some (.not (.binary .and (.app (.ident ⟨.var, "P", .entity⟩) (.ident ⟨.var, "x", .entity⟩))
      (.ident ⟨.var, "q", .entity⟩))) := by decide

/-- Terms with plain names are written alike exactly if they differ in nothing but the kinds and the
types of their identifiers. -/
theorem text_eq_iff_skeleton_eq {first second : Term}
    (firstPlain : ∀ name ∈ first.names, IsPlainName name)
    (secondPlain : ∀ name ∈ second.names, IsPlainName name) :
    first.text = second.text ↔ first.skeleton = second.skeleton := by
  constructor
  · intro sameText
    apply Option.some.inj
    calc some first.skeleton
      _ = ofText? first.text := (ofText?_text firstPlain).symm
      _ = ofText? second.text := by rw [sameText]
      _ = some second.skeleton := ofText?_text secondPlain
  · intro sameSkeleton
    calc first.text
      _ = first.skeleton.text := (textAt_skeleton 0 first).symm
      _ = second.skeleton.text := by rw [sameSkeleton]
      _ = second.text := textAt_skeleton 0 second

/-- `¬(p ∧ q)` and `¬p ∧ q` are told apart by the parentheses, and `p` as a constant of type `t` is not
told from `p` as a variable of type `e`. -/
theorem text_eq_iff_skeleton_eq_negation :
    let p : Term := .ident ⟨.const, "p", .truth⟩
    let q : Term := .ident ⟨.const, "q", .truth⟩
    let first : Term := .not (.binary .and p q)
    let second : Term := .binary .and (.not p) q
    let third : Term := .not (.binary .and (.ident ⟨.var, "p", .entity⟩) q)
    (∀ name ∈ first.names, IsPlainName name) ∧ (∀ name ∈ second.names, IsPlainName name) ∧
      (∀ name ∈ third.names, IsPlainName name) ∧ first.text ≠ second.text ∧ first.text = third.text := by
  intro p q first second third
  have firstPlain : ∀ name ∈ first.names, IsPlainName name := by decide
  have secondPlain : ∀ name ∈ second.names, IsPlainName name := by decide
  have thirdPlain : ∀ name ∈ third.names, IsPlainName name := by decide
  refine ⟨firstPlain, secondPlain, thirdPlain, fun same => ?_, ?_⟩
  · have sameSkeleton := (text_eq_iff_skeleton_eq firstPlain secondPlain).mp same
    exact absurd sameSkeleton (by decide)
  · exact (text_eq_iff_skeleton_eq firstPlain thirdPlain).mpr (by decide)

end Term

end Denotation
