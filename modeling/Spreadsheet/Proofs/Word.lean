import Mathlib.Algebra.Group.Nat.Defs
import Spreadsheet.Address

/-! Arithmetic on words of so many bits without a sign: it has no outcome where the result is no such
word. -/

namespace Spreadsheet.Word

def add? (bits m n : Nat) : Option Nat := if m + n < 2 ^ bits then some (m + n) else none

def mul? (bits m n : Nat) : Option Nat := if m * n < 2 ^ bits then some (m * n) else none

def sub? (m n : Nat) : Option Nat := if n ≤ m then some (m - n) else none

/-- A number as a word, the greatest one if it is greater than that. -/
def saturate (bits n : Nat) : Nat := min n (2 ^ bits - 1)

/-- The last bits of a number. -/
def truncate (bits n : Nat) : Nat := n % 2 ^ bits

/-- How many indices there are from one to another, both counted. -/
def span? (first last : Nat) : Option Nat := do add? 32 (← sub? last first) 1

/-- How many indices up to the last one are among the first `count` ones, the last one being cut to
them. -/
def usedSpan? (first last count : Nat) : Option Nat := do
  span? first (min last (← sub? (saturate 32 count) 1))

theorem saturate_of_lt {bits n : Nat} (h : n < 2 ^ bits) : saturate bits n = n := by
  rw [saturate]
  omega

theorem truncate_of_lt {bits n : Nat} (h : n < 2 ^ bits) : truncate bits n = n := Nat.mod_eq_of_lt h

theorem span?_eq {first last : Nat} (hle : first ≤ last) (hlast : last + 1 < 2 ^ 32) :
    span? first last = some (last - first + 1) := by
  have hfits : last - first + 1 < 2 ^ 32 := by omega
  simp only [span?, sub?, if_pos hle, Option.bind_eq_bind, Option.bind_some, add?, if_pos hfits]

theorem saturate_le_iff {first last count : Nat} (hle : first ≤ last) (hlast : last + 1 < 2 ^ 32) :
    saturate 32 count ≤ first ↔ min (last + 1) count - first = 0 := by
  rw [saturate]
  omega

theorem usedSpan?_eq {first last count : Nat} (hlast : last + 1 < 2 ^ 32)
    (hne : min (last + 1) count - first ≠ 0) :
    usedSpan? first last count = some (min (last + 1) count - first) := by
  have hused : min last (saturate 32 count - 1) = min (last + 1) count - 1 := by
    rw [saturate]
    omega
  have hpos : 1 ≤ saturate 32 count := by
    rw [saturate]
    omega
  simp only [usedSpan?, sub?, if_pos hpos, Option.bind_eq_bind, Option.bind_some, hused]
  rw [span?_eq (by omega) (by omega)]
  exact congrArg some (by omega)

theorem mul?_eq {m n : Nat} (hm : m ≤ maxRows) (hn : n ≤ maxColumns) :
    mul? 64 m n = some (m * n) := by
  have hfits : m * n < 2 ^ 64 :=
    Nat.lt_of_le_of_lt (Nat.mul_le_mul hm hn) (by decide)
  rw [mul?, if_pos hfits]

end Spreadsheet.Word
