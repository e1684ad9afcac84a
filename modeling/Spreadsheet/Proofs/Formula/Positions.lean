import Mathlib
import Spreadsheet.Formula.Parser

/-! The parser hands positions on and looks at none of them: scans of the same tokens are read
alike, and a fault stands where some token of the scan stands. -/

namespace Spreadsheet.Formula

variable {α β γ δ : Type} {Q : Nat → Nat → Prop}

/-- Scans of the same tokens, whose positions stand in a relation. -/
inductive Scan.Alike (Q : Nat → Nat → Prop) : Scan → Scan → Prop
  | finish {p q : Nat} (h : Q p q) : Alike Q (.finish p) (.finish q)
  | fault {p q : Nat} (h : Q p q) (e : Fault) : Alike Q (.fault ⟨p, e⟩) (.fault ⟨q, e⟩)
  | token {p q : Nat} {rest rest' : Scan} (h : Q p q) (t : Token) (hrest : Alike Q rest rest') :
    Alike Q (.token t p rest) (.token t q rest')

/-- The same fault at positions that stand in a relation, or values that stand in another one. -/
inductive Alike (Q : Nat → Nat → Prop) (R : α → β → Prop) :
    Except ParseError α → Except ParseError β → Prop
  | error {p q : Nat} (h : Q p q) (e : Fault) : Alike Q R (.error ⟨p, e⟩) (.error ⟨q, e⟩)
  | ok {a : α} {b : β} (h : R a b) : Alike Q R (.ok a) (.ok b)

/-- The same value, with the same tokens left. -/
def Tally (Q : Nat → Nat → Prop) (x y : Parsed α) : Prop := x.1 = y.1 ∧ x.2.Alike Q y.2

/-- A parser that looks at no position. -/
def Blind (Q : Nat → Nat → Prop) (p : Scan → Except ParseError (Parsed α)) : Prop :=
  ∀ s s', s.Alike Q s' → Alike Q (Tally Q) (p s) (p s')

namespace Alike

theorem bind {R : α → β → Prop} {S : γ → δ → Prop} {x : Except ParseError α}
    {y : Except ParseError β} {f : α → Except ParseError γ} {g : β → Except ParseError δ}
    (h : Alike Q R x y) (hf : ∀ a b, R a b → Alike Q S (f a) (g b)) :
    Alike Q S (x >>= f) (y >>= g) := by
  cases h with
  | error h e => exact error h e
  | ok h => exact hf _ _ h

theorem bind_tally {S : γ → δ → Prop} {x y : Except ParseError (Parsed α)}
    {f : Parsed α → Except ParseError γ} {g : Parsed α → Except ParseError δ}
    (h : Alike Q (Tally Q) x y) (hf : ∀ a s s', s.Alike Q s' → Alike Q S (f (a, s)) (g (a, s'))) :
    Alike Q S (x >>= f) (y >>= g) := by
  refine h.bind ?_
  rintro ⟨a, s⟩ ⟨b, s'⟩ ⟨rfl, hs⟩
  exact hf _ s s' hs

end Alike

namespace Scan.Alike

variable {s s' : Scan}

theorem head?_eq (h : s.Alike Q s') : s.head? = s'.head? := by cases h <;> rfl

theorem length_eq (h : s.Alike Q s') : s.length = s'.length := by
  induction h with
  | finish | fault => rfl
  | token _ _ _ ih => rw [length, length, ih]

theorem position (h : s.Alike Q s') : Q s.position s'.position := by
  cases h <;> exact ‹Q _ _›

theorem fail {R : α → β → Prop} (h : s.Alike Q s') (e : Fault) :
    Formula.Alike Q R (s.fail e) (s'.fail e) := .error h.position e

theorem unexpected {R : α → β → Prop} (h : s.Alike Q s') :
    Formula.Alike Q R s.unexpected s'.unexpected := by
  rw [Scan.unexpected, Scan.unexpected, ← h.head?_eq]
  cases s.head? with
  | none => exact h.fail _
  | some t => exact h.fail _

theorem check (h : s.Alike Q s') : Formula.Alike Q (Scan.Alike Q) s.check s'.check := by
  cases h with
  | finish h => exact .ok (.finish h)
  | fault h e => exact .error h e
  | token h t hrest => exact .ok (.token h t hrest)

theorem advance (h : s.Alike Q s') : Formula.Alike Q (Scan.Alike Q) s.advance s'.advance := by
  cases h with
  | finish h => exact .ok (.finish h)
  | fault h e => exact .ok (.fault h e)
  | token _ _ hrest => exact hrest.check

theorem next {R : α → β → Prop} (h : s.Alike Q s') {f : Scan → Except ParseError α}
    {g : Scan → Except ParseError β}
    (hf : ∀ r r', r.Alike Q r' → Formula.Alike Q R (f r) (g r')) :
    Formula.Alike Q R (s.advance >>= f) (s'.advance >>= g) := h.advance.bind hf

theorem pure_next (h : s.Alike Q s') (a : α) :
    Formula.Alike Q (Tally Q) (s.advance >>= fun r => pure (a, r))
      (s'.advance >>= fun r => pure (a, r)) := h.next fun _ _ hr => .ok ⟨rfl, hr⟩

end Scan.Alike

/-- A parser for operands that looks at no position, whatever room it is given. -/
def BlindOperand (Q : Nat → Nat → Prop) (p : OperandParser) : Prop := ∀ room, Blind Q (p room)

theorem alike_enter {R : α → β → Prop} {inner : Option OperandParser}
    (hinner : ∀ p ∈ inner, BlindOperand Q p) {room : Nat} {s s' : Scan} (hs : s.Alike Q s')
    {f : OperandParser × Nat → Except ParseError α} {g : OperandParser × Nat → Except ParseError β}
    (hf : ∀ p room, BlindOperand Q p → Alike Q R (f (p, room)) (g (p, room))) :
    Alike Q R (enter inner room s >>= f) (enter inner room s' >>= g) := by
  cases inner with
  | none => exact hs.fail _
  | some p =>
    cases room with
    | zero => exact hs.fail _
    | succ room => exact hf p room (hinner p rfl)

variable {operand : OperandParser} {op? : Token → Option BinaryOp}

theorem blind_chainRest (hoperand : BlindOperand Q operand) (room : Nat) (left : Expr) :
    Blind Q (chainRest op? operand room left) := by
  induction room generalizing left with
  | zero =>
    intro s s' hs
    rw [chainRest, chainRest, ← hs.head?_eq]
    cases s.head?.bind op? with
    | none => exact .ok ⟨rfl, hs⟩
    | some op => exact hs.next fun _ _ hr => hr.fail _
  | succ room ih =>
    intro s s' hs
    rw [chainRest, chainRest, ← hs.head?_eq]
    cases s.head?.bind op? with
    | none => exact .ok ⟨rfl, hs⟩
    | some op => exact hs.next fun _ _ hr => (hoperand room _ _ hr).bind_tally fun right => ih _

theorem blind_chain (hoperand : BlindOperand Q operand) : BlindOperand Q (chain op? operand) :=
  fun room _ _ hs => (hoperand room _ _ hs).bind_tally fun left => blind_chainRest hoperand room left

theorem blind_expression (hsigned : BlindOperand Q operand) : BlindOperand Q (expression operand) :=
  blind_chain (blind_chain (blind_chain (blind_chain hsigned)))

theorem blind_arguments {function : String} {argument : Scan → Except ParseError (Parsed Expr)}
    (hargument : Blind Q argument) (fuel : Nat) (args : List Expr) :
    Blind Q (arguments function argument fuel args) := by
  induction fuel generalizing args with
  | zero => exact fun s s' hs => hs.unexpected
  | succ fuel ih =>
    intro s s' hs
    rw [arguments, arguments, ← hs.head?_eq]
    split
    · exact hs.fail _
    · exact hs.fail _
    · refine (hargument _ _ hs).bind_tally fun arg r r' hr => ?_
      simp only [← hr.head?_eq]
      split
      · exact hr.next fun _ _ => ih _ _ _
      · exact hr.pure_next _
      · exact hr.fail _
      · exact hr.fail _

theorem blind_elementValue (negative : Bool) : Blind Q (elementValue negative) := by
  intro s s' hs
  unfold elementValue
  rw [← hs.head?_eq]
  split
  · exact hs.pure_next _
  · exact hs.pure_next _
  · exact hs.pure_next _
  · exact hs.pure_next _
  all_goals exact hs.fail _

theorem blind_element : Blind Q element := by
  intro s s' hs
  rw [element, element, ← hs.head?_eq]
  split
  · exact hs.next (blind_elementValue true)
  · exact hs.next (blind_elementValue false)
  · exact blind_elementValue false s s' hs

theorem blind_elements (fuel : Nat) (row : List Expr) (rows : List (List Expr)) :
    Blind Q (elements fuel row rows) := by
  induction fuel generalizing row rows with
  | zero => exact fun s s' hs => hs.unexpected
  | succ fuel ih =>
    intro s s' hs
    rw [elements, elements, ← hs.head?_eq]
    split
    · exact hs.next fun _ _ hr => (blind_element _ _ hr).bind_tally fun e => ih _ _
    · exact hs.next fun _ _ hr => (blind_element _ _ hr).bind_tally fun e => ih _ _
    · exact .ok ⟨rfl, hs⟩
    · exact hs.fail _
    · exact hs.fail _

section

variable {inner : Option OperandParser}

theorem blind_callTail (hinner : ∀ p ∈ inner, BlindOperand Q p) (function : String) (room : Nat) :
    Blind Q (callTail inner function room) := by
  refine fun s s' hs => hs.next fun r r' hr => alike_enter hinner hr fun signed room hsigned => ?_
  simp only [← hr.head?_eq, ← hr.length_eq]
  split
  · exact hr.pure_next _
  · refine (blind_arguments (blind_expression hsigned room) _ _ _ _ hr).bind_tally ?_
    exact fun args _ _ hlast => .ok ⟨rfl, hlast⟩

theorem blind_arrayConstant (hinner : ∀ p ∈ inner, BlindOperand Q p) :
    BlindOperand Q (arrayConstant inner) := by
  refine fun room s s' hs => hs.next fun r r' hr => alike_enter hinner hr fun _ _ _ => ?_
  refine (blind_element _ _ hr).bind_tally fun first t t' ht => ?_
  simp only [← ht.length_eq]
  refine (blind_elements _ _ _ _ _ ht).bind_tally fun rows last last' hlast => ?_
  simp only
  split
  · exact hlast.pure_next _
  · exact hlast.fail _

theorem blind_primary (hinner : ∀ p ∈ inner, BlindOperand Q p) :
    BlindOperand Q (primary inner) := by
  intro room s s' hs
  rw [primary, primary, ← hs.head?_eq]
  split
  · exact hs.pure_next _
  · exact hs.pure_next _
  · exact hs.pure_next _
  · exact hs.pure_next _
  · exact hs.pure_next _
  · refine hs.next fun r r' hr => ?_
    simp only [← hr.head?_eq]
    split
    · exact blind_callTail hinner _ room r r' hr
    · exact .ok ⟨rfl, hr⟩
  · exact blind_arrayConstant hinner room s s' hs
  · refine hs.next fun r r' hr => ?_
    simp only [← hr.head?_eq]
    split
    · exact hr.fail _
    · refine alike_enter hinner hr fun signed room hsigned => ?_
      refine (blind_expression hsigned room _ _ hr).bind_tally fun e last last' hlast => ?_
      simp only [← hlast.head?_eq]
      split
      · exact hlast.pure_next _
      · exact hlast.fail _
  · exact hs.unexpected

theorem blind_rangeOperand (hinner : ∀ p ∈ inner, BlindOperand Q p) :
    BlindOperand Q (rangeOperand inner) := by
  refine fun room s s' hs => (blind_primary hinner room s s' hs).bind_tally fun left r r' hr => ?_
  simp only [← hr.head?_eq]
  split
  · split
    · refine hr.next fun last last' hlast => ?_
      simp only [← hlast.head?_eq]
      split
      · exact hlast.pure_next _
      · exact hlast.fail _
    · exact hr.fail _
  · exact .ok ⟨rfl, hr⟩

theorem blind_percents (room : Nat) (e : Expr) : Blind Q (percents room e) := by
  induction room generalizing e with
  | zero =>
    intro s s' hs
    rw [percents, percents, ← hs.head?_eq]
    split
    · exact hs.next fun _ _ hr => hr.fail _
    · exact .ok ⟨rfl, hs⟩
  | succ room ih =>
    intro s s' hs
    rw [percents, percents, ← hs.head?_eq]
    split
    · exact hs.next fun _ _ => ih _ _ _
    · exact .ok ⟨rfl, hs⟩

theorem blind_powerOperand (hinner : ∀ p ∈ inner, BlindOperand Q p) :
    BlindOperand Q (powerOperand inner) := by
  have hbase : BlindOperand Q (postfixOperand inner) := fun room _ _ hs =>
    (blind_rangeOperand hinner room _ _ hs).bind_tally (blind_percents room)
  refine fun room s s' hs => (hbase room s s' hs).bind_tally fun base r r' hr => ?_
  simp only [← hr.head?_eq]
  split
  · refine hr.next fun t t' ht => alike_enter hinner ht fun signed room hsigned => ?_
    exact (hsigned room _ _ ht).bind_tally fun _ _ _ hlast => .ok ⟨rfl, hlast⟩
  · exact .ok ⟨rfl, hr⟩

theorem blind_signedStep (hinner : ∀ p ∈ inner, BlindOperand Q p) :
    BlindOperand Q (signedStep inner) := by
  intro room s s' hs
  rw [signedStep, signedStep, ← hs.head?_eq]
  split
  · refine hs.next fun r r' hr => alike_enter hinner hr fun signed room hsigned => ?_
    exact (hsigned room _ _ hr).bind_tally fun _ _ _ hlast => .ok ⟨rfl, hlast⟩
  · exact blind_powerOperand hinner room s s' hs

end

theorem blind_signedOperand (levels : Nat) : BlindOperand Q (signedOperand levels) := by
  induction levels with
  | zero => exact blind_signedStep (by simp)
  | succ levels ih => exact blind_signedStep (by simpa using ih)

/-- Formulas of the same tokens are read as the same tree or have the same fault at positions that
stand in the relation. -/
theorem alike_wholeExpression {s s' : Scan} (hs : s.Alike Q s') :
    Alike Q Eq (wholeExpression s) (wholeExpression s') := by
  refine hs.check.bind fun r r' hr => ?_
  simp only [← hr.head?_eq]
  split
  · exact .error hr.position .emptyFormula
  refine (blind_expression (blind_signedOperand _) _ _ _ hr).bind_tally fun e last last' hlast => ?_
  simp only [← hlast.head?_eq]
  split
  · exact .ok rfl
  · exact hlast.fail _
  · exact hlast.fail _

/-- The positions of a scan lie between the one where it begins and the end of the text. -/
theorem alike_scanFrom {n p : Nat} {cs : List Char} (hQ : ∀ q, p ≤ q → q ≤ p + cs.length → Q q q) :
    (scanFrom n p cs).Alike Q (scanFrom n p cs) := by
  induction cs generalizing n p with
  | nil => exact .finish (hQ p le_rfl le_rfl)
  | cons c cs ih =>
    have hrest (n : Nat) : (scanFrom n (p + 1) cs).Alike Q (scanFrom n (p + 1) cs) := by
      refine ih fun q hp hq => hQ q (Nat.le_of_succ_le hp) ?_
      rw [List.length_cons]
      omega
    have hfirst : Q p p := hQ p le_rfl (Nat.le_add_right _ _)
    cases n with
    | succ n => exact hrest n
    | zero =>
      rw [scanFrom]
      split
      · exact hrest 0
      · split
        · exact .token hfirst _ (hrest _)
        · exact .fault hfirst _

end Spreadsheet.Formula
