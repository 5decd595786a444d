import Denotation.Term.Nameless

/-!
# Lifting and instantiation of nameless forms

To contract a redex in nameless form is to take away one binder: the distance that leads to it is
filled with the argument, distances that lead past it shrink by one, and the argument makes room
for the binders that it is carried under.

The laws below say how two such operations pass each other.  All of them are about distances, and
each goes by one induction in which the position moves with every binder.
-/

namespace Denotation.Nameless

/-- Take away the binder that the distance `depth` leads to and put `replacement`, a term from
outside of this binder, where it was meant. -/
def instantiate (term : Nameless) (depth : Nat) (replacement : Nameless) : Nameless :=
  match term with
  | .bound distance =>
      if distance < depth then .bound distance
      else if distance = depth then replacement.lift depth 0
      else .bound (distance - 1)
  | .free id => .free id
  | .binder kind ty body => .binder kind ty (body.instantiate (depth + 1) replacement)
  | .not operand => .not (operand.instantiate depth replacement)
  | .binary connective left right =>
      .binary connective (left.instantiate depth replacement)
        (right.instantiate depth replacement)
  | .equal left right =>
      .equal (left.instantiate depth replacement) (right.instantiate depth replacement)
  | .app function argument =>
      .app (function.instantiate depth replacement) (argument.instantiate depth replacement)

theorem lift_zero (term : Nameless) (inner : Nat) : term.lift 0 inner = term := by
  induction term generalizing inner with
  | bound distance => simp [lift]
  | free _ => rfl
  | binder _ _ _ bodyIH => simp only [lift, bodyIH]
  | not _ operandIH => simp only [lift, operandIH]
  | binary _ _ _ leftIH rightIH => simp only [lift, leftIH, rightIH]
  | equal _ _ leftIH rightIH => simp only [lift, leftIH, rightIH]
  | app _ _ functionIH argumentIH => simp only [lift, functionIH, argumentIH]

/-- Room made inside of room that was just made only widens it. -/
theorem lift_lift_of_within (term : Nameless) (first second : Nat) {inner position : Nat}
    (lower : inner ≤ position) (upper : position ≤ inner + first) :
    (term.lift first inner).lift second position = term.lift (first + second) inner := by
  induction term generalizing inner position with
  | bound distance =>
      simp only [lift, bound.injEq]
      split <;> split <;> omega
  | free _ => rfl
  | binder _ _ _ bodyIH =>
      simp only [lift, bodyIH (Nat.succ_le_succ lower) (by omega : position + 1 ≤ inner + 1 + first)]
  | not _ operandIH => simp only [lift, operandIH lower upper]
  | binary _ _ _ leftIH rightIH => simp only [lift, leftIH lower upper, rightIH lower upper]
  | equal _ _ leftIH rightIH => simp only [lift, leftIH lower upper, rightIH lower upper]
  | app _ _ functionIH argumentIH =>
      simp only [lift, functionIH lower upper, argumentIH lower upper]

theorem lift_lift_comm (term : Nameless) (first second : Nat) {inner position : Nat}
    (lower : inner ≤ position) :
    (term.lift first inner).lift second (position + first) =
      (term.lift second position).lift first inner := by
  induction term generalizing inner position with
  | bound distance =>
      by_cases within : distance < inner
      · have before : distance < position := by omega
        have beforeAfter : distance < position + first := by omega
        simp only [lift, if_pos within, if_pos before, if_pos beforeAfter]
      · by_cases before : distance < position
        · simp [lift, within, before]
        · have beyond : ¬ distance + second < inner := by omega
          simp [lift, within, before, beyond, Nat.add_right_comm]
  | free _ => rfl
  | binder _ _ _ bodyIH =>
      have below := bodyIH (Nat.add_le_add_right lower 1)
      rw [Nat.add_right_comm] at below
      simp only [lift, below]
  | not _ operandIH => simp only [lift, operandIH lower]
  | binary _ _ _ leftIH rightIH => simp only [lift, leftIH lower, rightIH lower]
  | equal _ _ leftIH rightIH => simp only [lift, leftIH lower, rightIH lower]
  | app _ _ functionIH argumentIH => simp only [lift, functionIH lower, argumentIH lower]

/-- Nothing is bound by a binder that room was made for, so taking one away loses only the
room. -/
theorem instantiate_lift_of_within (term replacement : Nameless) (amount : Nat) {inner depth : Nat}
    (lower : inner ≤ depth) (upper : depth ≤ inner + amount) :
    (term.lift (amount + 1) inner).instantiate depth replacement = term.lift amount inner := by
  induction term generalizing inner depth with
  | bound distance =>
      by_cases below : distance < inner
      · have first : distance < depth := by omega
        simp [lift, instantiate, below, first]
      · have notLess : ¬ distance + (amount + 1) < depth := by omega
        have differ : distance + (amount + 1) ≠ depth := by omega
        simp only [lift, if_neg below, instantiate, if_neg notLess, if_neg differ, bound.injEq]
        omega
  | free _ => rfl
  | binder _ _ _ bodyIH =>
      simp only [lift, instantiate,
        bodyIH (Nat.succ_le_succ lower) (by omega : depth + 1 ≤ inner + 1 + amount)]
  | not _ operandIH => simp only [lift, instantiate, operandIH lower upper]
  | binary _ _ _ leftIH rightIH =>
      simp only [lift, instantiate, leftIH lower upper, rightIH lower upper]
  | equal _ _ leftIH rightIH =>
      simp only [lift, instantiate, leftIH lower upper, rightIH lower upper]
  | app _ _ functionIH argumentIH =>
      simp only [lift, instantiate, functionIH lower upper, argumentIH lower upper]

theorem instantiate_lift_comm (term replacement : Nameless) (amount : Nat) {inner depth : Nat}
    (lower : inner ≤ depth) :
    (term.lift amount inner).instantiate (depth + amount) replacement =
      (term.instantiate depth replacement).lift amount inner := by
  induction term generalizing inner depth with
  | bound distance =>
      rcases Nat.lt_trichotomy distance depth with less | same | greater
      · have first : (if distance < inner then distance else distance + amount) <
            depth + amount := by split <;> omega
        simp only [lift, instantiate, if_pos less, if_pos first]
      · subst same
        have notInner : ¬ distance < inner := by omega
        have widened := lift_lift_of_within replacement distance amount (Nat.zero_le inner)
          (by omega)
        simp [lift, instantiate, notInner, widened]
      · have notInner : ¬ distance < inner := by omega
        have notLess : ¬ distance < depth := by omega
        have differ : distance ≠ depth := by omega
        have notInnerAfter : ¬ distance - 1 < inner := by omega
        simp only [lift, instantiate, if_neg notInner, if_neg notLess, if_neg differ,
          Nat.add_lt_add_iff_right, Nat.add_right_cancel_iff, if_neg notInnerAfter, bound.injEq]
        omega
  | free _ => rfl
  | binder _ _ _ bodyIH =>
      have below := bodyIH (Nat.add_le_add_right lower 1)
      rw [Nat.add_right_comm] at below
      simp only [lift, instantiate, below]
  | not _ operandIH => simp only [lift, instantiate, operandIH lower]
  | binary _ _ _ leftIH rightIH => simp only [lift, instantiate, leftIH lower, rightIH lower]
  | equal _ _ leftIH rightIH => simp only [lift, instantiate, leftIH lower, rightIH lower]
  | app _ _ functionIH argumentIH =>
      simp only [lift, instantiate, functionIH lower, argumentIH lower]

theorem lift_instantiate (term replacement : Nameless) (amount inner depth : Nat) :
    (term.instantiate depth replacement).lift amount (inner + depth) =
      (term.lift amount (inner + depth + 1)).instantiate depth (replacement.lift amount inner) := by
  induction term generalizing depth with
  | bound distance =>
      rcases Nat.lt_trichotomy distance depth with less | same | greater
      · have inside : distance < inner + depth := by omega
        have insideAfter : distance < inner + depth + 1 := by omega
        simp only [instantiate, lift, if_pos less, if_pos inside, if_pos insideAfter]
      · subst same
        have inside : distance < inner + distance + 1 := by omega
        have passed := lift_lift_comm replacement distance amount (Nat.zero_le inner)
        simp [instantiate, lift, inside, passed]
      · have notLess : ¬ distance < depth := by omega
        have differ : distance ≠ depth := by omega
        simp only [instantiate, lift, if_neg notLess, if_neg differ]
        by_cases inside : distance < inner + depth + 1
        · have insideBefore : distance - 1 < inner + depth := by omega
          simp only [if_pos inside, if_pos insideBefore, if_neg notLess, if_neg differ]
        · have outsideBefore : ¬ distance - 1 < inner + depth := by omega
          have notLessAfter : ¬ distance + amount < depth := by omega
          have differAfter : distance + amount ≠ depth := by omega
          simp only [if_neg inside, if_neg outsideBefore, if_neg notLessAfter, if_neg differAfter,
            bound.injEq]
          omega
  | free _ => rfl
  | binder _ _ _ bodyIH => simp only [lift, instantiate, Nat.add_assoc, bodyIH]
  | not _ operandIH => simp only [lift, instantiate, operandIH]
  | binary _ _ _ leftIH rightIH => simp only [lift, instantiate, leftIH, rightIH]
  | equal _ _ leftIH rightIH => simp only [lift, instantiate, leftIH, rightIH]
  | app _ _ functionIH argumentIH => simp only [lift, instantiate, functionIH, argumentIH]

/-- Two binders can be taken away in either order. -/
theorem instantiate_instantiate (term first second : Nameless) (outer depth : Nat) :
    (term.instantiate depth first).instantiate (outer + depth) second =
      (term.instantiate (outer + depth + 1) second).instantiate depth
        (first.instantiate outer second) := by
  induction term generalizing depth with
  | bound distance =>
      rcases Nat.lt_trichotomy distance depth with less | same | greater
      · have inside : distance < outer + depth := by omega
        have insideAfter : distance < outer + depth + 1 := by omega
        simp only [instantiate, if_pos less, if_pos inside, if_pos insideAfter]
      · subst same
        have inside : distance < outer + distance + 1 := by omega
        have passed := instantiate_lift_comm first second distance (Nat.zero_le outer)
        simp [instantiate, inside, passed]
      · have notLess : ¬ distance < depth := by omega
        have differ : distance ≠ depth := by omega
        simp only [instantiate, if_neg notLess, if_neg differ]
        rcases Nat.lt_trichotomy distance (outer + depth + 1) with inside | same | outside
        · have insideBefore : distance - 1 < outer + depth := by omega
          simp only [instantiate, if_pos inside, if_pos insideBefore, if_neg notLess, if_neg differ]
        · subst same
          have cancelled := instantiate_lift_of_within second (first.instantiate outer second)
            (outer + depth) (Nat.zero_le depth) (by omega)
          simp [cancelled]
        · have notInsideBefore : ¬ distance - 1 < outer + depth := by omega
          have differBefore : distance - 1 ≠ outer + depth := by omega
          have notInside : ¬ distance < outer + depth + 1 := by omega
          have differOuter : distance ≠ outer + depth + 1 := by omega
          have notLessAfter : ¬ distance - 1 < depth := by omega
          have differAfter : distance - 1 ≠ depth := by omega
          simp only [instantiate, if_neg notInsideBefore, if_neg differBefore, if_neg notInside,
            if_neg differOuter, if_neg notLessAfter, if_neg differAfter]
  | free _ => rfl
  | binder _ _ _ bodyIH => simp only [instantiate, Nat.add_assoc, bodyIH]
  | not _ operandIH => simp only [instantiate, operandIH]
  | binary _ _ _ leftIH rightIH => simp only [instantiate, leftIH, rightIH]
  | equal _ _ leftIH rightIH => simp only [instantiate, leftIH, rightIH]
  | app _ _ functionIH argumentIH => simp only [instantiate, functionIH, argumentIH]

end Denotation.Nameless
