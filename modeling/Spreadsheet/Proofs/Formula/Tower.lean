import Mathlib.Logic.Function.Iterate
import Spreadsheet.Proofs.Formula.Completeness

/-! Towers: formulas that are accepted although their trees are much higher than the limit. The room
for operations is counted anew by each kind of chain, so one chain may stand on another one. -/

namespace Spreadsheet.Formula

open Text

def corner : Address := .relative 0 0

/-- A chain of operations on top of a tree. -/
def Expr.grown (op : BinaryOp) (n : Nat) (e : Expr) : Expr :=
  (fun e => .binary op e (.reference corner))^[n] e

def Expr.percented (n : Nat) (e : Expr) : Expr := (Expr.unary .percent)^[n] e

/-- The tokens of a chain behind its first operand. -/
def links (t : Token) : Nat → List Token
  | 0 => []
  | n + 1 => [t, .cell corner] ++ links t n

/-- Chains of all levels on top of one another. -/
def Expr.piled (n : Nat) (e : Expr) : Expr :=
  (((e.grown .multiply n).grown .concat n).grown .add n).grown .equal n

def piledTokens (n : Nat) (ts : List Token) : List Token :=
  ts ++ links .star n ++ links .ampersand n ++ links .plus n ++ links .equal n

/-- The tree of a tower that takes the given levels and room. -/
def tower : (levels room : Nat) → Expr
  | 0, room => ((Expr.reference corner).percented room).piled room
  | levels + 1, room =>
    (Expr.binary .power ((Expr.call "F" [tower levels (room - 1)]).percented room)
      (.reference corner)).piled room

def towerTokens : (levels room : Nat) → List Token
  | 0, room => piledTokens room ([.cell corner] ++ List.replicate room .percent)
  | levels + 1, room =>
    piledTokens room ([.identifier "F", .leftParen] ++ towerTokens levels (room - 1) ++
      [.rightParen] ++ List.replicate room .percent ++ [.caret, .cell corner])

section

variable {levels room n p : Nat} {l : Level} {e : Expr} {s middle rest : Scan}

theorem parser_range (h : Phrase.primary.parser levels room s = .ok (e, rest))
    (hend : Phrase.range.Ends rest.head?) : Phrase.range.parser levels room s = .ok (e, rest) := by
  simp only [Phrase.parser] at h
  simp only [Phrase.parser, rangeOperand, h, bind, Except.bind]
  split
  · exact absurd (hend .colon ‹_›) (by decide)
  · rfl

theorem percents_run (hs : Begins (List.replicate n .percent) s rest) (hrest : rest.Clean) :
    percents (n + room) e s = percents room (e.percented n) rest := by
  induction n generalizing e s with
  | zero =>
    cases hs with
    | nil => rw [Nat.zero_add]; rfl
  | succ n ih =>
    obtain ⟨p, next, rfl, hnext⟩ := hs.exists_token
    rw [Nat.succ_add, percents, Scan.head?]
    simp only [advance_token (hnext.clean_iff.mpr hrest), bind, Except.bind]
    rw [ih hnext]
    rfl

theorem parser_percents (h : Phrase.range.parser levels room s = .ok (e, middle))
    (hs : Begins (List.replicate n .percent) middle rest) (hrest : rest.Clean) (hn : n ≤ room)
    (hend : Phrase.percentage.Ends rest.head?) :
    Phrase.percentage.parser levels room s = .ok (e.percented n, rest) := by
  obtain ⟨m, rfl⟩ := Nat.exists_eq_add_of_le hn
  simp only [Phrase.parser] at h
  simp only [Phrase.parser, postfixOperand, h, bind, Except.bind]
  rw [percents_run hs hrest]
  exact Phrase.resume_eq levels _ hend

theorem parser_base (h : Phrase.percentage.parser levels room s = .ok (e, rest))
    (hend : Phrase.power.Ends rest.head?) : Phrase.power.parser levels room s = .ok (e, rest) := by
  simp only [Phrase.parser] at h
  simp only [Phrase.parser, powerOperand, h, bind, Except.bind]
  split
  · exact absurd (hend .caret ‹_›) (by decide)
  · rfl

theorem parser_unsigned {t : Token} (ht : s.head? = some t) (hsign : signOp? t = none) :
    Phrase.signed.parser levels room s = Phrase.power.parser levels room s := by
  simp only [Phrase.parser, signedStep, ht, Option.bind_some, hsign]

theorem parser_reference (k : Phrase) (a : Address) (hrest : rest.Clean) (hend : k.Ends rest.head?) :
    k.parser levels room (.token (.cell a) p rest) = .ok (.reference a, rest) := by
  have hprimary : Phrase.primary.parser levels room (.token (.cell a) p rest) =
      .ok (.reference a, rest) := by
    simp only [Phrase.parser, primary, Scan.head?, advance_token hrest]
    rfl
  have hrange (h : Phrase.range.Ends rest.head?) := parser_range hprimary h
  have hpercentage (h : Phrase.percentage.Ends rest.head?) :
      Phrase.percentage.parser levels room (.token (.cell a) p rest) = .ok (.reference a, rest) :=
    parser_percents (n := 0) (hrange (h.mono (by decide))) .nil hrest (Nat.zero_le _) h
  have hpower (h : Phrase.power.Ends rest.head?) := parser_base (hpercentage (h.mono (by decide))) h
  have hsigned (h : Phrase.signed.Ends rest.head?) :
      Phrase.signed.parser levels room (.token (.cell a) p rest) = .ok (.reference a, rest) := by
    rw [parser_unsigned rfl rfl]
    exact hpower (h.mono (by decide))
  have hchain (l : Level) (h : (Phrase.chain l).Ends rest.head?)
      (hoperand : l.operand.parser levels room (.token (.cell a) p rest) = .ok (.reference a, rest)) :
      (Phrase.chain l).parser levels room (.token (.cell a) p rest) = .ok (.reference a, rest) := by
    rw [Phrase.parser_chain, chain, hoperand]
    exact Phrase.resume_eq levels _ h
  have hproduct (h : (Phrase.chain .product).Ends rest.head?) :=
    hchain .product h (hsigned (h.mono (by decide)))
  have hconcat (h : (Phrase.chain .concat).Ends rest.head?) :=
    hchain .concat h (hproduct (h.mono (by decide)))
  have hsum (h : (Phrase.chain .sum).Ends rest.head?) :=
    hchain .sum h (hconcat (h.mono (by decide)))
  rcases k with (_ | _ | _ | _) | _ | _ | _ | _ | _
  · exact hchain .comparison hend (hsum (hend.mono (by decide)))
  · exact hsum hend
  · exact hconcat hend
  · exact hproduct hend
  · exact hsigned hend
  · exact hpower hend
  · exact hpercentage hend
  · exact hrange hend
  · exact hprimary

theorem parser_power {a : Address} {q : Nat} (h : Phrase.percentage.parser (levels + 1) (room + 1) s =
      .ok (e, .token .caret p (.token (.cell a) q rest))) (hrest : rest.Clean)
    (hend : Phrase.power.Ends rest.head?) :
    Phrase.power.parser (levels + 1) (room + 1) s = .ok (.binary .power e (.reference a), rest) := by
  have hexponent : Phrase.signed.parser levels room (.token (.cell a) q rest) =
      .ok (.reference a, rest) := parser_reference .signed a hrest (hend.mono (by decide))
  have hadvance : (Scan.token .caret p (.token (.cell a) q rest)).advance =
      .ok (.token (.cell a) q rest) := advance_token hrest
  simp only [Phrase.parser] at h hexponent
  simp only [Phrase.parser, powerOperand, h, bind, Except.bind, Scan.head?, hadvance, enter_inside,
    hexponent]
  rfl

theorem ends_of_begins {k : Phrase} {ts : List Token} (hs : Begins ts s rest)
    (hts : ∀ t, ts.head? = some t → k.rank < t.rank) (hend : k.Ends rest.head?) :
    k.Ends s.head? := by
  cases ts with
  | nil =>
    cases hs with
    | nil => exact hend
  | cons t ts =>
    rw [hs.head?_eq rfl]
    exact Phrase.ends_some (hts t rfl)

theorem ends_of_links {k : Phrase} {t : Token} (hs : Begins (links t n) s rest)
    (ht : k.rank < t.rank) (hend : k.Ends rest.head?) : k.Ends s.head? := by
  refine ends_of_begins hs (fun u hu => ?_) hend
  cases n with
  | zero => cases hu
  | succ n =>
    cases hu
    exact ht

theorem ends_of_percents {k : Phrase} (hs : Begins (List.replicate n .percent) s rest)
    (hk : k.rank < Token.percent.rank) (hend : k.Ends rest.head?) : k.Ends s.head? := by
  refine ends_of_begins hs (fun u hu => ?_) hend
  obtain rfl := List.eq_of_mem_replicate (List.mem_of_mem_head? hu)
  exact hk

theorem chainRest_run {t : Token} {op : BinaryOp} (hop : l.operator? t = some op)
    (hs : Begins (links t n) s rest) (hrest : rest.Clean) (hend : l.operand.Ends rest.head?) :
    chainRest l.operator? (l.operand.parser levels) (n + room) e s =
      chainRest l.operator? (l.operand.parser levels) room (e.grown op n) rest := by
  have hrank : l.operand.rank < t.rank := by
    rw [Level.rank_operator hop]
    exact Phrase.rank_operand_lt l
  induction n generalizing e s with
  | zero =>
    cases hs with
    | nil => rw [Nat.zero_add]; rfl
  | succ n ih =>
    obtain ⟨p, operand, rfl, hoperand⟩ := hs.exists_token
    obtain ⟨q, next, rfl, hnext⟩ := hoperand.exists_token
    have hclean : next.Clean := hnext.clean_iff.mpr hrest
    have hright : l.operand.parser levels (n + room) (.token (.cell corner) q next) =
        .ok (.reference corner, next) :=
      parser_reference _ corner hclean (ends_of_links hnext hrank hend)
    have hadvance : (Scan.token t p (.token (.cell corner) q next)).advance =
        .ok (.token (.cell corner) q next) := advance_token hclean
    rw [Nat.succ_add, chainRest, Scan.head?, Option.bind_some, hop]
    simp only [hadvance, bind, Except.bind, hright]
    rw [ih hnext]
    rfl

theorem parser_links {t : Token} {op : BinaryOp} (hop : l.operator? t = some op)
    (h : l.operand.parser levels room s = .ok (e, middle)) (hs : Begins (links t n) middle rest)
    (hrest : rest.Clean) (hn : n ≤ room) (hend : (Phrase.chain l).Ends rest.head?) :
    (Phrase.chain l).parser levels room s = .ok (e.grown op n, rest) := by
  obtain ⟨m, rfl⟩ := Nat.exists_eq_add_of_le hn
  rw [Phrase.parser_chain, chain, h]
  change chainRest _ _ _ _ _ = _
  rw [chainRest_run hop hs hrest (hend.mono (Phrase.rank_operand_lt l).le)]
  exact Phrase.resume_eq levels _ hend

/-- Chains of all levels are read on top of anything that is an operand of a product. -/
theorem parser_piled {ts : List Token}
    (h : ∀ middle, Begins ts s middle → middle.Clean → Phrase.signed.Ends middle.head? →
      Phrase.signed.parser levels room s = .ok (e, middle))
    (hs : Begins (piledTokens n ts) s rest) (hrest : rest.Clean) (hn : n ≤ room)
    (hend : (Phrase.chain .comparison).Ends rest.head?) :
    (Phrase.chain .comparison).parser levels room s = .ok (e.piled n, rest) := by
  obtain ⟨s₄, hs, hcomparison⟩ := hs.split
  obtain ⟨s₃, hs, hsum⟩ := hs.split
  obtain ⟨s₂, hs, hconcat⟩ := hs.split
  obtain ⟨s₁, hs, hproduct⟩ := hs.split
  have hclean₄ : s₄.Clean := hcomparison.clean_iff.mpr hrest
  have hclean₃ : s₃.Clean := hsum.clean_iff.mpr hclean₄
  have hclean₂ : s₂.Clean := hconcat.clean_iff.mpr hclean₃
  have hend₄ : (Phrase.chain .sum).Ends s₄.head? :=
    ends_of_links hcomparison (by decide) (hend.mono (by decide))
  have hend₃ : (Phrase.chain .concat).Ends s₃.head? :=
    ends_of_links hsum (by decide) (hend₄.mono (by decide))
  have hend₂ : (Phrase.chain .product).Ends s₂.head? :=
    ends_of_links hconcat (by decide) (hend₃.mono (by decide))
  have hend₁ : Phrase.signed.Ends s₁.head? :=
    ends_of_links hproduct (by decide) (hend₂.mono (by decide))
  have h₁ := h s₁ hs (hproduct.clean_iff.mpr hclean₂) hend₁
  have h₂ := parser_links (l := .product) rfl h₁ hproduct hclean₂ hn hend₂
  have h₃ := parser_links (l := .concat) rfl h₂ hconcat hclean₃ hn hend₃
  have h₄ := parser_links (l := .sum) rfl h₃ hsum hclean₄ hn hend₄
  exact parser_links (l := .comparison) rfl h₄ hcomparison hrest hn hend

theorem parser_call {f : String} {q r : Nat} {t : Token} (ht : s.head? = some t) (hopen : Opens t)
    (h : (Phrase.chain .comparison).parser levels room s = .ok (e, .token .rightParen r rest))
    (hs : s.Clean) (hrest : rest.Clean) :
    Phrase.primary.parser (levels + 1) (room + 1)
      (.token (.identifier f) p (.token .leftParen q s)) = .ok (.call f.toUpper [e], rest) := by
  obtain ⟨p', tail, rfl⟩ := Scan.head?_eq_some ht
  have hname : (Scan.token (.identifier f) p (.token .leftParen q (.token t p' tail))).advance =
      .ok (.token .leftParen q (.token t p' tail)) := advance_token hs
  have hparen : (Scan.token .leftParen q (.token t p' tail)).advance = .ok (.token t p' tail) :=
    advance_token hs
  have hlast : (Scan.token .rightParen r rest).advance = .ok rest := advance_token hrest
  simp only [Phrase.parser] at h
  simp only [Phrase.parser, primary, Scan.head?, hname, bind, Except.bind, callTail, hparen,
    enter_inside]
  split
  · exact absurd (Option.some.inj ‹_›) hopen.1
  · rw [arguments_succ ht hopen]
    simp only [h, bind, Except.bind, Scan.head?, hlast]
    rfl

theorem head?_towerTokens (levels room : Nat) :
    ∃ t, (towerTokens levels room).head? = some t ∧ Opens t := by
  cases levels with
  | zero => exact ⟨.cell corner, by simp [towerTokens, piledTokens], by simp [Opens]⟩
  | succ levels => exact ⟨.identifier "F", by simp [towerTokens, piledTokens], by simp [Opens]⟩

theorem parser_tower {k m : Nat} (hk : k ≤ levels) (hm : m ≤ room) (hkm : k ≤ m)
    (hs : Begins (towerTokens k m) s rest) (hrest : rest.Clean)
    (hend : (Phrase.chain .comparison).Ends rest.head?) :
    (Phrase.chain .comparison).parser levels room s = .ok (tower k m, rest) := by
  induction k generalizing m levels room s rest with
  | zero =>
    refine parser_piled (fun middle hs hmiddle hend => ?_) hs hrest hm hend
    obtain ⟨p, percents, rfl, hpercents⟩ := hs.exists_token
    rw [parser_unsigned rfl rfl]
    refine parser_base (parser_percents (parser_range ?_ ?_) hpercents hmiddle hm ?_) ?_
    · exact parser_reference .primary corner (hpercents.clean_iff.mpr hmiddle)
        (ends_of_percents hpercents (by decide) (hend.mono (by decide)))
    · exact ends_of_percents hpercents (by decide) (hend.mono (by decide))
    · exact hend.mono (by decide)
    · exact hend.mono (by decide)
  | succ k ih =>
    obtain ⟨levels, rfl⟩ := Nat.exists_eq_add_of_le' (Nat.lt_of_lt_of_le k.succ_pos hk)
    obtain ⟨room, rfl⟩ := Nat.exists_eq_add_of_le'
      (Nat.lt_of_lt_of_le (Nat.lt_of_lt_of_le k.succ_pos hkm) hm)
    refine parser_piled (fun middle hs hmiddle hend => ?_) hs hrest hm hend
    obtain ⟨before, hs, hpower⟩ := hs.split
    obtain ⟨q, last, rfl, hlast⟩ := hpower.exists_token
    obtain ⟨q', rfl⟩ := hlast.exists_singleton
    obtain ⟨percents, hs, hpercents⟩ := hs.split
    obtain ⟨close, hs, hclose⟩ := hs.split
    obtain ⟨r, rfl⟩ := hclose.exists_singleton
    obtain ⟨inner, hname, hinner⟩ := hs.split
    obtain ⟨p, paren, rfl, hparen⟩ := hname.exists_token
    obtain ⟨p', rfl⟩ := hparen.exists_singleton
    obtain ⟨t, ht, hopen⟩ := head?_towerTokens k (m - 1)
    have hpercentsClean : percents.Clean := hpercents.clean_iff.mpr hmiddle
    have hread : (Phrase.chain .comparison).parser levels room inner =
        .ok (tower k (m - 1), .token .rightParen r percents) :=
      ih (by omega) (by omega) (by omega) hinner hpercentsClean (Phrase.ends_some (by decide))
    have hstop : Phrase.percentage.Ends (some .caret) := Phrase.ends_some (by decide)
    have hcall := parser_call (f := "F") (p := p) (q := p') (hinner.head?_eq ht) hopen hread
      (hinner.clean_iff.mpr hpercentsClean) hpercentsClean
    have hupper : "F".toUpper = "F" := by cbv
    rw [hupper] at hcall
    rw [parser_unsigned rfl rfl]
    refine parser_power (parser_percents (parser_range hcall ?_) hpercents hmiddle hm hstop)
      hmiddle (hend.mono (by decide))
    exact ends_of_percents hpercents (by decide) (hstop.mono (by decide))

end

def linksText (c : Char) : Nat → List Char
  | 0 => []
  | n + 1 => [c] ++ ['A', '1'] ++ linksText c n

def piledText (n : Nat) (cs : List Char) : List Char :=
  cs ++ linksText '*' n ++ linksText '&' n ++ linksText '+' n ++ linksText '=' n

def towerText : (levels room : Nat) → List Char
  | 0, room => piledText room (['A', '1'] ++ List.replicate room '%')
  | levels + 1, room =>
    piledText room (['F'] ++ ['('] ++ towerText levels (room - 1) ++ [')'] ++
      List.replicate room '%' ++ (['^'] ++ ['A', '1']))

/-- The formula of a tower, such as `=A1%*A1&A1+A1=A1`. -/
def towerFormula (levels room : Nat) : String := String.ofList ('=' :: towerText levels room)

section

variable {levels room n : Nat} {c : Char} {t : Token} {ts : List Token} {cs after : List Char}

theorem stopsAt_linksText (hc : continues c = false) (h : StopsAt continues after) :
    StopsAt continues (linksText c n ++ after) := by
  cases n with
  | zero => exact h
  | succ n => exact stopsAt_cons hc

theorem spells_corner (h : StopsAt continues after) :
    Spells [.cell corner] ['A', '1'] after := by
  have htext : corner.toText.toList = ['A', '1'] := by cbv
  rw [← htext]
  exact spells_address rfl h

theorem spells_links (hc : symbol? c = some t) (hstop : continues c = false)
    (h : StopsAt continues after) : Spells (links t n) (linksText c n) after := by
  induction n with
  | zero => exact spells_nil
  | succ n ih =>
    have hnext : StopsAt continues (linksText c n ++ after) := stopsAt_linksText hstop h
    have hlink : Spells ([t] ++ [.cell corner]) ([c] ++ ['A', '1']) (linksText c n ++ after) :=
      (spells_symbol hc).append (spells_corner hnext)
    exact hlink.append ih

theorem spells_percents : Spells (List.replicate n .percent) (List.replicate n '%') after := by
  induction n with
  | zero => exact spells_nil
  | succ n ih => exact Spells.append (spells_symbol (c := '%') rfl) ih

theorem spells_piled (h : ∀ after, StopsAt continues after → Spells ts cs after)
    (hafter : StopsAt continues after) : Spells (piledTokens n ts) (piledText n cs) after := by
  have hcomparison : StopsAt continues (linksText '=' n ++ after) := stopsAt_linksText rfl hafter
  have hsum := stopsAt_linksText (n := n) (c := '+') rfl hcomparison
  have hconcat := stopsAt_linksText (n := n) (c := '&') rfl hsum
  have hproduct := stopsAt_linksText (n := n) (c := '*') rfl hconcat
  exact ((((h _ hproduct).append (spells_links rfl rfl hconcat)).append
    (spells_links rfl rfl hsum)).append (spells_links rfl rfl hcomparison)).append
      (spells_links rfl rfl hafter)

theorem stopsAt_percents (h : StopsAt continues after) :
    StopsAt continues (List.replicate n '%' ++ after) := by
  cases n with
  | zero => exact h
  | succ n => exact stopsAt_cons rfl

theorem spells_call : Spells [.identifier "F", .leftParen] (['F'] ++ ['(']) after := by
  have htext : "F".toList = ['F'] := by cbv
  have hname : IsName "F" := ⟨⟨'F', [], htext, .inl rfl⟩, by simp [htext]; decide⟩
  have hword : Spells [.identifier "F"] "F".toList ('(' :: after) := spells_function hname
  have hparen : Spells [.leftParen] ['('] after := spells_symbol rfl
  rw [htext] at hword
  exact hword.append hparen

theorem spells_tower (levels room : Nat) (hafter : StopsAt continues after) :
    Spells (towerTokens levels room) (towerText levels room) after := by
  induction levels generalizing room after with
  | zero =>
    exact spells_piled (fun after h => (spells_corner (stopsAt_percents h)).append spells_percents)
      hafter
  | succ levels ih =>
    refine spells_piled (fun after h => ?_) hafter
    have hinner : Spells (towerTokens levels (room - 1)) (towerText levels (room - 1))
        (')' :: (List.replicate room '%' ++ (['^'] ++ ['A', '1'] ++ after))) :=
      ih (room - 1) (stopsAt_cons rfl)
    have hcaret : Spells [.caret] ['^'] (['A', '1'] ++ after) := spells_symbol rfl
    have hpower := hcaret.append (spells_corner h)
    exact (((spells_call.append hinner).append (spells_symbol rfl)).append spells_percents).append
      hpower

theorem isBlank_of_mem_linksText (hc : isBlank c = false) {d : Char} (hd : d ∈ linksText c n) :
    isBlank d = false := by
  induction n with
  | zero => cases hd
  | succ n ih =>
    simp only [linksText, List.mem_append, List.mem_cons, List.not_mem_nil, or_false] at hd
    rcases hd with (rfl | rfl | rfl) | hd
    · exact hc
    · rfl
    · rfl
    · exact ih hd

theorem isBlank_of_mem_piledText (h : ∀ d ∈ cs, isBlank d = false) {d : Char}
    (hd : d ∈ piledText n cs) : isBlank d = false := by
  simp only [piledText, List.mem_append] at hd
  rcases hd with (((hd | hd) | hd) | hd) | hd
  · exact h d hd
  all_goals exact isBlank_of_mem_linksText rfl hd

theorem isBlank_of_mem_towerText {d : Char} (hd : d ∈ towerText levels room) :
    isBlank d = false := by
  induction levels generalizing room d with
  | zero =>
    refine isBlank_of_mem_piledText (fun d hmem => ?_) hd
    simp only [List.mem_append, List.mem_cons, List.not_mem_nil, or_false,
      List.mem_replicate] at hmem
    rcases hmem with (rfl | rfl) | ⟨-, rfl⟩ <;> rfl
  | succ levels ih =>
    refine isBlank_of_mem_piledText (fun d hmem => ?_) hd
    simp only [List.mem_append, List.mem_cons, List.not_mem_nil, or_false,
      List.mem_replicate] at hmem
    rcases hmem with ((((rfl | rfl) | hmem) | rfl) | ⟨-, rfl⟩) | (rfl | rfl | rfl)
    all_goals first | rfl | exact ih hmem

theorem parse_towerFormula (hlevels : levels ≤ maxNesting) (hroom : room ≤ maxHeight)
    (hle : levels ≤ room) : parse (towerFormula levels room) = .ok (tower levels room) := by
  have htrim : trimChars (towerFormula levels room).toList = '=' :: towerText levels room := by
    rw [towerFormula, String.toList_ofList]
    refine trimChars_eq_self (stopsAt_cons rfl) (stopsAt_of_forall fun d hd => ?_)
    rw [List.mem_reverse, List.mem_cons] at hd
    rcases hd with rfl | hd
    · rfl
    · exact isBlank_of_mem_towerText hd
  obtain ⟨q, hs⟩ := spells_tower levels room stopsAt_nil 1
  rw [List.append_nil, scanFrom] at hs
  obtain ⟨t, ht, -⟩ := head?_towerTokens levels room
  have hread := parser_tower hlevels hroom hle hs trivial (by simp [Phrase.Ends, Scan.head?])
  refine parse_of_scan htrim rfl ?_
  simp only [Phrase.parser] at hread
  rw [wholeExpression, check_of_clean (hs.clean_iff.mpr trivial), signedOperand_eq]
  simp only [bind, Except.bind, hs.head?_eq ht, hread]
  rfl

end

section

variable {op : BinaryOp} {n : Nat} {e : Expr}

theorem Expr.grown_succ : e.grown op (n + 1) = .binary op (e.grown op n) (.reference corner) :=
  Function.iterate_succ_apply' _ _ _

theorem Expr.percented_succ : e.percented (n + 1) = .unary .percent (e.percented n) :=
  Function.iterate_succ_apply' _ _ _

theorem Expr.height_grown : (e.grown op n).height = e.height + n := by
  induction n with
  | zero => rfl
  | succ n ih =>
    have hcorner : (Expr.reference corner).height = 0 := rfl
    rw [grown_succ, height_binary, ih, hcorner]
    omega

theorem Expr.height_percented : (e.percented n).height = e.height + n := by
  induction n with
  | zero => rfl
  | succ n ih => rw [percented_succ, height_unary, ih, Nat.add_assoc]

theorem Expr.height_piled : (e.piled n).height = e.height + 4 * n := by
  simp only [piled, height_grown]
  omega

end

/-- The bound on the height of accepted formulas is reached at all levels and with any room. -/
theorem height_tower (levels room : Nat) : (tower levels room).height = tallest levels room := by
  induction levels generalizing room with
  | zero =>
    have hcorner : (Expr.reference corner).height = 0 := rfl
    rw [tower, Expr.height_piled, Expr.height_percented, hcorner, tallest]
    omega
  | succ levels ih =>
    have hcorner : (Expr.reference corner).height = 0 := rfl
    rw [tower, Expr.height_piled, Expr.height_binary, Expr.height_percented,
      Expr.height_call_singleton, ih, hcorner, tallest]
    omega

end Spreadsheet.Formula
