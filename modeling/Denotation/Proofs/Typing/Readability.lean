import Mathlib.Data.List.Basic
import Denotation.Store.Layout

/-!
# Written types are read in one way

The written form of a type says by itself where it ends.  Its first character tells the three kinds of types
apart: a quote begins a variable, an angle bracket a function type, and anything else is a constant.  A
function type then goes on with its domain, so the comma that belongs to it is the one at which the domain
ends, and not the first comma in the text.

So whatever follows, two types that begin the same text are the same type.  This needs symbols that are not
mistaken for signs: with a quote as a constant, its text would begin that of every variable.
-/

namespace Denotation

namespace Ty

/-- The characters that hold the written form of a type together. -/
def signs : List Char := ['<', '>', ',', '\'']

/-- All symbols of the type can be told from signs. -/
def IsPlain (ty : Ty) : Prop := ∀ symbol ∈ ty.symbols, symbol ∉ signs

-- By the symbols of the type, not by all characters, which instance search also finds a way to try.
instance (ty : Ty) : Decidable ty.IsPlain :=
  List.decidableBAll (fun symbol : Char => symbol ∉ signs) ty.symbols

theorem isPlain_fn {domain range : Ty} :
    (fn domain range).IsPlain ↔ domain.IsPlain ∧ range.IsPlain := by
  simp only [IsPlain, symbols, List.forall_mem_append]

theorem toList_text_const (symbol : Char) : (const symbol).text.toList = [symbol] := by
  simp [text]

theorem toList_text_var (symbol : Char) : (var symbol).text.toList = ['\'', symbol] := by
  simp [text]

theorem toList_text_fn (domain range : Ty) :
    (fn domain range).text.toList =
      '<' :: (domain.text.toList ++ ',' :: (range.text.toList ++ ['>'])) := by
  simp [text]

theorem IsPlain.const_ne {symbol sign : Char} (plain : (const symbol).IsPlain) (isSign : sign ∈ signs) :
    symbol ≠ sign := by
  intro same
  exact plain symbol (List.mem_singleton_self symbol) (same ▸ isSign)

/-- A text that goes on in any way begins with one type at most. -/
theorem eq_of_text_append {left right : Ty} (leftPlain : left.IsPlain) (rightPlain : right.IsPlain)
    {leftRest rightRest : List Char}
    (same : left.text.toList ++ leftRest = right.text.toList ++ rightRest) :
    left = right ∧ leftRest = rightRest := by
  induction left generalizing right leftRest rightRest with
  | const symbol =>
      have noQuote : symbol ≠ '\'' := leftPlain.const_ne (by decide)
      have noBracket : symbol ≠ '<' := leftPlain.const_ne (by decide)
      cases right with
      | const other => simpa [toList_text_const] using same
      | var other => simp [toList_text_const, toList_text_var, noQuote] at same
      | fn _ _ => simp [toList_text_const, toList_text_fn, noBracket] at same
  | var symbol =>
      cases right with
      | const other =>
          have noQuote : '\'' ≠ other := (rightPlain.const_ne (by decide)).symm
          simp [toList_text_const, toList_text_var, noQuote] at same
      | var other => simpa [toList_text_var] using same
      | fn _ _ => simp [toList_text_var, toList_text_fn] at same
  | fn domain range domainIH rangeIH =>
      cases right with
      | const other =>
          have noBracket : '<' ≠ other := (rightPlain.const_ne (by decide)).symm
          simp [toList_text_const, toList_text_fn, noBracket] at same
      | var other => simp [toList_text_var, toList_text_fn] at same
      | fn domain' range' =>
          obtain ⟨domainPlain, rangePlain⟩ := isPlain_fn.mp leftPlain
          obtain ⟨domainPlain', rangePlain'⟩ := isPlain_fn.mp rightPlain
          simp only [toList_text_fn, List.cons_append, List.append_assoc, List.nil_append,
            List.cons.injEq, true_and] at same
          -- The domains end at the same place, and there both texts have their comma.
          obtain ⟨rfl, fromComma⟩ := domainIH domainPlain domainPlain' same
          obtain ⟨rfl, fromBracket⟩ := rangeIH rangePlain rangePlain' (List.cons.inj fromComma).2
          exact ⟨rfl, (List.cons.inj fromBracket).2⟩

theorem eq_of_text_isPrefix {left right : Ty} (leftPlain : left.IsPlain) (rightPlain : right.IsPlain)
    (isPrefix : left.text.toList <+: right.text.toList) : left = right := by
  obtain ⟨rest, same⟩ := isPrefix
  have atEnd : left.text.toList ++ rest = right.text.toList ++ [] := by rw [same, List.append_nil]
  exact (eq_of_text_append leftPlain rightPlain atEnd).1

/-- Types whose symbols can be told from signs have different written forms if they are different, and none
of these forms begins another one. -/
theorem text_unambiguous {left right : Ty} (leftPlain : left.IsPlain) (rightPlain : right.IsPlain) :
    (left.text = right.text → left = right) ∧
      (left.text.toList <+: right.text.toList → left.text = right.text) := by
  constructor
  · intro same
    have isPrefix : left.text.toList <+: right.text.toList := same ▸ List.prefix_rfl
    exact eq_of_text_isPrefix leftPlain rightPlain isPrefix
  · intro isPrefix
    exact congrArg text (eq_of_text_isPrefix leftPlain rightPlain isPrefix)

/-- `<<'a,t>,t>` and `<'a,<t,t>>` have the same symbols in the same order. -/
theorem text_unambiguous_nested :
    let left : Ty := .fn (.fn (.var 'a') .truth) .truth
    let right : Ty := .fn (.var 'a') (.fn .truth .truth)
    left.IsPlain ∧ right.IsPlain ∧ left.text ≠ right.text ∧
      ¬ left.text.toList <+: right.text.toList := by
  intro left right
  have leftPlain : left.IsPlain := by decide
  have rightPlain : right.IsPlain := by decide
  obtain ⟨injective, notBeginning⟩ := text_unambiguous leftPlain rightPlain
  have differ : left ≠ right := by decide
  have textDiffers : left.text ≠ right.text := fun same => differ (injective same)
  exact ⟨leftPlain, rightPlain, textDiffers, fun isPrefix => textDiffers (notBeginning isPrefix)⟩

end Ty

end Denotation
