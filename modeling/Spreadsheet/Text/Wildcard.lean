import Spreadsheet.Text.Case

/-! Wildcard patterns: `*` stands for any run of characters, `?` for one character, and `~` takes
the character behind it literally. Patterns and texts are compared in lower case, from the left; where
they disagree, the last `*` takes one character more and the search goes on from there. -/

namespace Spreadsheet.Text

inductive PatternToken where
  | any
  | one
  | char (c : Char)
  deriving DecidableEq, Repr

abbrev Pattern := List PatternToken

def literals (c : Char) : Pattern := (lowerChar c).map PatternToken.char

def patternOf : List Char → Pattern
  | [] => []
  | '*' :: cs => .any :: patternOf cs
  | '?' :: cs => .one :: patternOf cs
  | ['~'] => [.char '~']
  | '~' :: c :: cs => literals c ++ patternOf cs
  | c :: cs => literals c ++ patternOf cs

def hasWildcards (s : String) : Bool := s.toList.any fun c => c == '*' || c == '?' || c == '~'

namespace Pattern

/-- Where a search stands: what is left of the pattern and of the text, and for the last `*` that has
been met, what is behind it in the pattern and behind what it has taken of the text. -/
structure Search where
  tokens : Pattern
  chars : List Char
  star : Option (Pattern × List Char)

namespace Search

/-- Lets the last `*` take one character more. Without one, the search has failed. -/
def retry (s : Search) : Bool ⊕ Search :=
  match s.star with
  | none => .inl false
  | some (ts, cs) => .inr ⟨ts, cs.tail, some (ts, cs.tail)⟩

/-- Answers, or says where the search goes on. A `*` takes nothing at first, unless it is at the end
of the pattern and takes the rest of the text. -/
def step (s : Search) : Bool ⊕ Search :=
  match s.tokens, s.chars with
  | ts, [] => .inl (ts.all (· == .any))
  | [], _ :: _ => s.retry
  | .one :: ts, _ :: cs => .inr ⟨ts, cs, s.star⟩
  | .char d :: ts, c :: cs => if d = c then .inr ⟨ts, cs, s.star⟩ else s.retry
  | [.any], _ :: _ => .inl true
  | .any :: ts, c :: cs => .inr ⟨ts, c :: cs, some (ts, c :: cs)⟩

/-- Three numbers as the digits of one, in a base above the last two. -/
def rank (a b c : Nat) : Nat := (a * (max b c + 1) + b) * (max b c + 1) + c

theorem digit_lt {a b d e n : Nat} (hd : d < n) (h : a < b ∨ a = b ∧ d < e) : a * n + d < b * n + e := by
  rcases h with hlt | ⟨rfl, hlt⟩
  · calc a * n + d < (a + 1) * n := by rw [Nat.succ_mul]; omega
      _ ≤ b * n := Nat.mul_le_mul_right n hlt
      _ ≤ b * n + e := Nat.le_add_right _ _
  · exact Nat.add_lt_add_left hlt _

theorem rank_lt {a b c a' b' c' : Nat} (hmax : max b c ≤ max b' c')
    (h : a < a' ∨ a = a' ∧ (b < b' ∨ b = b' ∧ c < c')) : rank a b c < rank a' b' c' := by
  have hbase : max b c + 1 ≤ max b' c' + 1 := Nat.succ_le_succ hmax
  have hdigits : a * (max b' c' + 1) + b < a' * (max b' c' + 1) + b' ∨
      a * (max b' c' + 1) + b = a' * (max b' c' + 1) + b' ∧ c < c' := by
    rcases h with ha | ⟨rfl, hb | ⟨rfl, hc⟩⟩
    · exact .inl (digit_lt (by omega) (.inl ha))
    · exact .inl (Nat.add_lt_add_left hb _)
    · exact .inr ⟨rfl, hc⟩
  calc rank a b c ≤ (a * (max b' c' + 1) + b) * (max b' c' + 1) + c :=
        Nat.add_le_add_right
          (Nat.mul_le_mul (Nat.add_le_add_right (Nat.mul_le_mul_left a hbase) b) hbase) c
    _ < rank a' b' c' := digit_lt (by omega) hdigits

/-- What a step lowers: the length of the pattern from which the search may go on, then how much of the
text is behind the last `*`, then how much is left of it. -/
def size (s : Search) : Nat :=
  let (ts, cs) := s.star.getD ([], [])
  rank (max s.tokens.length ts.length) cs.length s.chars.length

theorem size_retry {s t : Search} (hs : s.chars ≠ []) (h : s.retry = .inr t) : t.size < s.size := by
  have hlength : 0 < s.chars.length := List.length_pos_iff.mpr hs
  rw [retry] at h
  split at h
  · cases h
  · rename_i ts cs hstar
    cases h
    simp only [size, hstar, Option.getD_some, List.length_tail]
    exact rank_lt (by omega) (by omega)

theorem size_step {s t : Search} (h : s.step = .inr t) : t.size < s.size := by
  obtain ⟨ts, cs, star⟩ := s
  rw [step] at h
  split at h <;> simp only at * <;> subst_vars
  · cases h
  · exact size_retry (List.cons_ne_nil _ _) h
  · cases h
    simp only [size, List.length_cons]
    exact rank_lt (by omega) (by omega)
  · split at h
    · cases h
      simp only [size, List.length_cons]
      exact rank_lt (by omega) (by omega)
    · exact size_retry (List.cons_ne_nil _ _) h
  · cases h
  · cases h
    simp only [size, List.length_cons, Option.getD_some]
    exact rank_lt (by omega) (by omega)

/-- Takes steps until one of them answers. -/
def run (s : Search) : Bool :=
  match _ : s.step with
  | .inl answer => answer
  | .inr t => t.run
termination_by s.size
decreasing_by exact size_step ‹_›

end Search

/-- Whether a pattern matches a whole text, given in lower case. -/
def isMatch (p : Pattern) (cs : List Char) : Bool := Search.run ⟨p, cs, none⟩

end Pattern

/-- Whether a pattern matches a whole text, whatever the case of letters. -/
def wildcardMatch (pattern text : String) : Bool :=
  Pattern.isMatch (patternOf pattern.toList) (lowerEach text)

/-- Where the characters of a text begin in its lower case form, of which `offset` characters are in
front of them, and where this form ends. -/
def offsets (offset : Nat) : List Char → List Nat
  | [] => [offset]
  | c :: cs => offset :: offsets (offset + (lowerChar c).length) cs

/-- The first position from `start` on at which a pattern matches the beginning of the rest. -/
def wildcardFind (pattern text : String) (start : Nat) : Option Nat :=
  let p := patternOf pattern.toList ++ [.any]
  let lowered := lowerEach text
  let begins := offsets 0 text.toList
  (List.range' start (begins.length - start)).find? fun i =>
    p.isMatch (lowered.drop (begins[i]?.getD 0))

end Spreadsheet.Text
