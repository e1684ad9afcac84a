import Mathlib.Order.Compare
import Spreadsheet.Proofs.Number.Order
import Spreadsheet.Value.Order

/-! The order of values. Values other than blanks are ordered by keys, that of their type before others,
and so totally. A blank has no place of its own in that order: it takes that of the zero of the type
beside it. -/

namespace Spreadsheet.Value

/-- Two values of one type. -/
inductive SameType : Value → Value → Prop
  | blank : SameType .blank .blank
  | number (x y : Float) : SameType (.number x) (.number y)
  | text (s t : String) : SameType (.text s) (.text t)
  | boolean (a b : Bool) : SameType (.boolean a) (.boolean b)
  | error (e f : CellError) : SameType (.error e) (.error f)
  | array (rows rows' : List (List Value)) : SameType (.array rows) (.array rows')

variable {a b c : Value}

theorem sameType_iff : SameType a b ↔ a.typeName = b.typeName := by
  constructor
  · rintro ⟨⟩ <;> rfl
  · intro h
    cases a <;> cases b <;> first | constructor | simp [typeName] at h

theorem isBlank_eq (h : a.typeName = b.typeName) : a.isBlank = b.isBlank := by
  cases sameType_iff.mpr h <;> rfl

/-! ### Values other than blanks -/

def numberKey : Value → Int
  | number x => Number.orderKey x
  | _ => 0

def textKey : Value → String
  | text s => Text.lower s
  | _ => ""

def booleanKey : Value → Bool
  | boolean b => b
  | _ => false

/-- Values of one type differ in the key of that type alone. -/
def compareKeys : Value → Value → Ordering :=
  compareLex (compareOn typeRank)
    (compareLex (compareOn numberKey) (compareLex (compareOn textKey) (compareOn booleanKey)))

instance : Std.TransCmp compareKeys := by
  unfold compareKeys
  infer_instance

theorem comparePresent_eq_compareKeys (a b : Value) : a.comparePresent b = compareKeys a b := by
  cases a <;> cases b <;>
    simp only [comparePresent, compareKeys, compareLex, compareOn, numberKey, textKey, booleanKey,
      Number.compare, compareTexts, Std.ReflOrd.compare_self, Ordering.then_eq]
  all_goals rfl

instance : Std.TransCmp comparePresent := by
  have heq : comparePresent = compareKeys := funext fun a => funext (comparePresent_eq_compareKeys a)
  rw [heq]
  infer_instance

theorem compare_of_isBlank_eq (h : a.isBlank = b.isBlank) : a.compare b = a.comparePresent b := by
  cases a <;> cases b <;> first | rfl | cases h

theorem isLE_compare_trans (hab : a.isBlank = b.isBlank) (hbc : b.isBlank = c.isBlank)
    (h : (a.compare b).isLE) (h' : (b.compare c).isLE) : (a.compare c).isLE := by
  rw [compare_of_isBlank_eq hab] at h
  rw [compare_of_isBlank_eq hbc] at h'
  rw [compare_of_isBlank_eq (hab.trans hbc)]
  exact Std.TransCmp.isLE_trans h h'

theorem compare_self (a : Value) : a.compare a = .eq := by
  rw [compare_of_isBlank_eq rfl]
  exact Std.ReflCmp.compare_self

theorem swap_compare (a b : Value) : (a.compare b).swap = b.compare a := by
  have hswap (v w : Value) : (v.comparePresent w).swap = w.comparePresent v :=
    Std.OrientedCmp.eq_swap.symm
  unfold compare
  cases a.isBlank <;> cases b.isBlank
  · exact hswap a b
  · exact hswap a a.blankBeside
  · exact hswap b.blankBeside b
  · rfl

theorem isLE_compare_total (a b : Value) : (a.compare b).isLE ∨ (b.compare a).isLE := by
  rw [← swap_compare a b]
  cases a.compare b <;> decide

/-! ### Blanks -/

inductive IsZero : Value → Prop
  | number : IsZero (.number 0)
  | text : IsZero (.text "")
  | boolean : IsZero (.boolean false)

/-- The zero of the type of a value, or any zero if that type has none: that of blanks, of errors or of
arrays. -/
def IsZeroBeside (b zero : Value) : Prop :=
  IsZero zero ∧ ∀ other, IsZero other → SameType other b → other = zero

theorem blank_compare {zero : Value} (h : IsZeroBeside b zero) :
    blank.compare b = zero.compare b := by
  obtain ⟨hzero, honly⟩ := h
  have hself := compare_self zero
  cases b with
  | number y =>
    rw [← honly _ .number (.number 0 y)]
    rfl
  | text s =>
    rw [← honly _ .text (.text "" s)]
    rfl
  | boolean t =>
    rw [← honly _ .boolean (.boolean false t)]
    rfl
  | blank => cases hzero <;> exact hself.symm
  | error e => cases hzero <;> rfl
  | array rows => cases hzero <;> rfl

example : (number (-1)).compare blank = .lt := by decide +kernel

/-- Values other than blanks, and of the numbers only the finite ones. -/
def IsOrdered : Value → Prop
  | blank => False
  | number x => Number.isFinite x = true
  | _ => True

theorem IsOrdered.isBlank_eq (ha : a.IsOrdered) (hb : b.IsOrdered) : a.isBlank = b.isBlank := by
  have hpresent {v : Value} (hv : v.IsOrdered) : v.isBlank = false := by
    cases v <;> first | rfl | cases hv
  rw [hpresent ha, hpresent hb]

/-- Comparing the other way round gives the opposite order. Without blanks it is a total preorder of the
values, in which numbers, ordered as doubles, come before texts and texts before truth values. A blank
compares as the zero of the type of the other value. -/
theorem compare_coherent :
    (∀ a b : Value, b.compare a = (a.compare b).swap) ∧
    (∀ a b c : Value, a.IsOrdered → b.IsOrdered → c.IsOrdered →
      (a.compare a).isLE ∧ ((a.compare b).isLE ∨ (b.compare a).isLE) ∧
        ((a.compare b).isLE → (b.compare c).isLE → (a.compare c).isLE)) ∧
    (∀ (x : Float) (s : String) (t : Bool), (number x).compare (text s) = .lt ∧
      (text s).compare (boolean t) = .lt ∧ (number x).compare (boolean t) = .lt) ∧
    (∀ x y : Float, Number.isFinite x = true → Number.isFinite y = true →
      ((number x).compare (number y) = .lt ↔ x < y) ∧
        ((number x).compare (number y) = .eq ↔ (x == y) = true)) ∧
    ∀ b zero : Value, IsZeroBeside b zero →
      blank.compare b = zero.compare b ∧ b.compare blank = b.compare zero := by
  refine ⟨fun a b => (swap_compare a b).symm, fun a b c ha hb hc => ?_, fun x s t => ⟨rfl, rfl, rfl⟩,
    fun x y hx hy => ⟨Number.compare_eq_lt_iff hx hy, Number.compare_eq_eq_iff hx hy⟩,
    fun b zero hzero => ⟨blank_compare hzero, ?_⟩⟩
  · refine ⟨?_, isLE_compare_total a b, isLE_compare_trans (ha.isBlank_eq hb) (hb.isBlank_eq hc)⟩
    rw [compare_self]
    rfl
  · rw [← swap_compare blank, blank_compare hzero, swap_compare]

end Spreadsheet.Value
