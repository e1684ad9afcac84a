import Spreadsheet.Proofs.Failure
import Spreadsheet.Proofs.Formula.Limits
import Spreadsheet.Proofs.Formula.Scanning

/-! What the parser accepts. The tokens that it reads derive the tree that it builds, and the levels
and the room that it is given bound the height of that tree. -/

namespace Spreadsheet.Formula

def inside : (levels : Nat) → Option OperandParser
  | 0 => none
  | levels + 1 => some (signedOperand levels)

theorem signedOperand_eq (levels : Nat) : signedOperand levels = signedStep (inside levels) := by
  cases levels <;> rfl

theorem enter_inside (levels room : Nat) (s : Scan) :
    enter (inside (levels + 1)) (room + 1) s = .ok (signedStep (inside levels), room) := by
  rw [← signedOperand_eq]
  rfl

theorem intercalate_cons {α : Type} (sep x : List α) (xs : List (List α)) :
    sep.intercalate (x :: xs) = x ++ xs.flatMap (sep ++ ·) := by
  induction xs generalizing x with
  | nil => simp
  | cons y ys ih =>
    rw [List.intercalate_cons_cons, ih, List.flatMap_cons, List.append_assoc, List.append_assoc]

/-- What follows a part of a separated list begins with the separator. -/
theorem exists_intercalate {α : Type} (c : α) {x : List α} {xs : List (List α)} (h : x ∈ xs) :
    ∃ pre post, [c].intercalate xs = pre ++ x ++ post ∧ (post = [] ∨ post.head? = some c) := by
  induction xs with
  | nil => cases h
  | cons y ys ih =>
    rcases List.mem_cons.mp h with rfl | h
    · refine ⟨[], ys.flatMap ([c] ++ ·), by simp [intercalate_cons], ?_⟩
      cases ys <;> simp
    · obtain ⟨pre, post, heq, hpost⟩ := ih h
      obtain ⟨z, zs, rfl⟩ := List.exists_cons_of_ne_nil (List.ne_nil_of_mem h)
      exact ⟨y ++ [c] ++ pre, post, by simp [List.intercalate_cons_cons, heq], hpost⟩

theorem rowText_cons (x : List Token × Expr) (row : List (List Token × Expr)) :
    rowText (x :: row) = x.1 ++ row.flatMap fun x => [.comma] ++ x.1 := by
  rw [rowText, List.map_cons, intercalate_cons, List.flatMap_map]

theorem rowText_singleton (x : List Token × Expr) : rowText [x] = x.1 := by simp [rowText]

theorem rowText_cons_cons (x y : List Token × Expr) (row : List (List Token × Expr)) :
    rowText (x :: y :: row) = x.1 ++ [.comma] ++ rowText (y :: row) := by
  simp [rowText, List.intercalate_cons_cons]

theorem Scan.head?_eq_some {s : Scan} {t : Token} (h : s.head? = some t) :
    ∃ p rest, s = .token t p rest := by
  cases s with
  | token u p rest =>
    obtain rfl : u = t := by simpa [Scan.head?] using h
    exact ⟨p, rest, rfl⟩
  | _ => simp [Scan.head?] at h

/-- A scan that is not about to fail. -/
def Scan.Live (s : Scan) : Prop := ∀ e, s ≠ .fault e

/-- What a successful result says: the tokens that were read and the value have the property `P`. -/
def Accepts {α : Type} (P : List Token → α → Prop) (s : Scan) (r : Except ParseError (Parsed α)) :
    Prop :=
  ∀ a rest, r = .ok (a, rest) → ∃ ts, P ts a ∧ Begins ts s rest ∧ rest.Live

section

variable {α β : Type} {P : List Token → α → Prop} {Q : List Token → β → Prop} {s : Scan}

theorem accepts_error {e : ParseError} : Accepts P s (.error e) := by
  intro a rest h
  cases h

theorem accepts_fail {t : Scan} {e : Fault} : Accepts P s (t.fail e) := accepts_error

theorem accepts_unexpected {t : Scan} : Accepts P s t.unexpected := by
  rw [Scan.unexpected]
  split <;> exact accepts_fail

theorem accepts_ok {a : α} (ha : P [] a) (hs : s.Live) : Accepts P s (.ok (a, s)) := by
  intro b rest h
  cases h
  exact ⟨[], ha, .nil, hs⟩

theorem Accepts.mono {P' : List Token → α → Prop} {r : Except ParseError (Parsed α)}
    (hr : Accepts P s r) (h : ∀ ts a, P ts a → P' ts a) : Accepts P' s r := by
  intro a rest hok
  obtain ⟨ts, ha, hts⟩ := hr a rest hok
  exact ⟨ts, h ts a ha, hts⟩

theorem Accepts.bind_of_eq {r : Except ParseError (Parsed α)}
    {f : Parsed α → Except ParseError (Parsed β)} (hr : Accepts P s r)
    (hf : ∀ ts a rest, r = .ok (a, rest) → P ts a → rest.Live →
      Accepts (fun us => Q (ts ++ us)) rest (f (a, rest))) : Accepts Q s (r >>= f) := by
  intro b rest h
  obtain ⟨⟨a, middle⟩, hok, h⟩ := exists_ok_of_bind h
  obtain ⟨ts, ha, hts, hmiddle⟩ := hr a middle hok
  obtain ⟨us, hb, hus, hrest⟩ := hf ts a middle hok ha hmiddle b rest h
  exact ⟨ts ++ us, hb, hts.append hus, hrest⟩

theorem Accepts.bind {r : Except ParseError (Parsed α)}
    {f : Parsed α → Except ParseError (Parsed β)} (hr : Accepts P s r)
    (hf : ∀ ts a rest, P ts a → rest.Live → Accepts (fun us => Q (ts ++ us)) rest (f (a, rest))) :
    Accepts Q s (r >>= f) :=
  hr.bind_of_eq fun ts a rest _ => hf ts a rest

theorem accepts_next {t : Token} (ht : s.head? = some t)
    {f : Scan → Except ParseError (Parsed β)}
    (hf : ∀ rest, rest.Live → Accepts (fun ts => Q (t :: ts)) rest (f rest)) :
    Accepts Q s (s.advance >>= f) := by
  obtain ⟨p, rest, rfl⟩ := Scan.head?_eq_some ht
  intro b last h
  have hrest : rest.Live ∧ f rest = .ok (b, last) := by
    cases rest with
    | fault e => cases h
    | _ => exact ⟨by simp [Scan.Live], h⟩
  obtain ⟨ts, hb, hts, hlast⟩ := hf rest hrest.1 b last hrest.2
  exact ⟨t :: ts, hb, hts.cons, hlast⟩

theorem accepts_pure_next {t : Token} (ht : s.head? = some t) {b : β} (hb : Q [t] b) :
    Accepts Q s (s.advance >>= fun rest => pure (b, rest)) :=
  accepts_next ht fun _ hrest => accepts_ok hb hrest

theorem accepts_enter {levels room : Nat} {t : Scan}
    {f : OperandParser × Nat → Except ParseError (Parsed β)}
    (hf : ∀ l n, levels = l + 1 → room = n + 1 → Accepts Q s (f (signedStep (inside l), n))) :
    Accepts Q s (enter (inside levels) room t >>= f) := by
  cases levels with
  | zero => exact accepts_error
  | succ l =>
    cases room with
    | zero => exact accepts_error
    | succ n =>
      rw [enter_inside]
      exact hf l n rfl rfl

end

/-- A parser that reads phrases of a category inside some number of levels. -/
def Meets (k : Phrase) (levels : Nat) (p : OperandParser) : Prop :=
  ∀ room s, s.Live → Accepts (Fits k levels room 0) s (p room s)

section

variable {l : Level} {levels : Nat} {operand : OperandParser}

theorem accepts_chainRest (hoperand : Meets l.operand levels operand) {top room : Nat}
    (hroom : room ≤ top) {ts : List Token} {left : Expr}
    (hleft : Fits (.chain l) levels top room ts left) {s : Scan} (hs : s.Live) :
    Accepts (fun us => Fits (.chain l) levels top 0 (ts ++ us)) s
      (chainRest l.operator? operand room left s) := by
  have hstop : Fits (.chain l) levels top 0 (ts ++ []) left := by
    rw [List.append_nil]
    exact hleft.finish
  induction room generalizing ts left s with
  | zero =>
    rw [chainRest]
    split
    · exact accepts_ok hstop hs
    · rename_i op hop
      obtain ⟨t, ht, -⟩ := Option.bind_eq_some_iff.mp hop
      exact accepts_next ht fun _ _ => accepts_fail
  | succ room ih =>
    rw [chainRest]
    split
    · exact accepts_ok hstop hs
    · rename_i op hop
      obtain ⟨t, ht, hop⟩ := Option.bind_eq_some_iff.mp hop
      refine accepts_next ht fun rest hrest => (hoperand room rest hrest).bind
        fun us right last hright hlast => ?_
      have hmore := Fits.operation hroom hleft hop hright
      refine (ih (by omega) hmore hlast ?_).mono fun vs e h => ?_
      · rw [List.append_nil]
        exact hmore.finish
      · simpa using h

theorem meets_chain (hoperand : Meets l.operand levels operand) :
    Meets (.chain l) levels (chain l.operator? operand) := fun room s hs =>
  (hoperand room s hs).bind fun _ _ _ hleft hrest =>
    accepts_chainRest hoperand le_rfl hleft.operand hrest

theorem meets_expression (hsigned : Meets .signed levels operand) :
    Meets (.chain .comparison) levels (expression operand) := by
  have hproduct : Meets (.chain .product) levels (chain productOp? operand) :=
    meets_chain (l := .product) hsigned
  have hconcat : Meets (.chain .concat) levels (chain concatOp? (chain productOp? operand)) :=
    meets_chain (l := .concat) hproduct
  have hsum : Meets (.chain .sum) levels
      (chain sumOp? (chain concatOp? (chain productOp? operand))) :=
    meets_chain (l := .sum) hconcat
  exact meets_chain (l := .comparison) hsum

end

/-- The arguments of a call, at least one, up to its closing parenthesis. -/
theorem accepts_arguments {P : List Token → Expr → Prop} {function : String}
    {argument : Scan → Except ParseError (Parsed Expr)}
    (hargument : ∀ s, s.Live → Accepts P s (argument s)) (fuel : Nat) {acc : List Expr} {s : Scan}
    (hs : s.Live) :
    Accepts (fun ts result => ∃ args : List (List Token × Expr), args ≠ [] ∧
      (∀ arg ∈ args, P arg.1 arg.2) ∧ ts = rowText args ++ [.rightParen] ∧
        result = acc.reverse ++ args.map Prod.snd) s
      (arguments function argument fuel acc s) := by
  induction fuel generalizing acc s with
  | zero => exact accepts_unexpected
  | succ fuel ih =>
    rw [arguments]
    split
    · exact accepts_fail
    · exact accepts_fail
    · refine (hargument s hs).bind fun ts arg rest harg hrest => ?_
      simp only
      split
      · rename_i hcomma
        refine accepts_next hcomma fun last hlast => (ih hlast).mono ?_
        rintro us result ⟨args, hne, hargs, rfl, rfl⟩
        refine ⟨(ts, arg) :: args, by simp, List.forall_mem_cons.mpr ⟨harg, hargs⟩, ?_, by simp⟩
        obtain ⟨next, args, rfl⟩ := List.exists_cons_of_ne_nil hne
        simp [rowText_cons_cons]
      · rename_i hparen
        refine accepts_pure_next hparen ⟨[(ts, arg)], by simp, by simpa using harg, ?_, by simp⟩
        rw [rowText_singleton]
      · exact accepts_fail
      · exact accepts_fail

/-- Behind a minus sign only numbers are read. -/
theorem accepts_elementValue (negative : Bool) (s : Scan) :
    Accepts (fun ts e => (negative = true → ∃ x, ts = [.number x] ∧ e = .number (-x)) ∧
      (negative = false → ∃ t c, ts = [t] ∧ t.literal? = some c ∧ e = .literal c)) s
      (elementValue negative s) := by
  unfold elementValue
  split
  · rename_i x hx
    refine accepts_pure_next hx ⟨?_, ?_⟩
    · rintro rfl
      exact ⟨x, rfl, rfl⟩
    · rintro rfl
      exact ⟨.number x, .number x, rfl, rfl, rfl⟩
  · exact accepts_pure_next ‹_› ⟨by simp, fun _ => ⟨_, _, rfl, rfl, rfl⟩⟩
  · exact accepts_pure_next ‹_› ⟨by simp, fun _ => ⟨_, _, rfl, rfl, rfl⟩⟩
  · exact accepts_pure_next ‹_› ⟨by simp, fun _ => ⟨_, _, rfl, rfl, rfl⟩⟩
  all_goals exact accepts_fail

theorem accepts_element (s : Scan) : Accepts DerivesElement s (element s) := by
  rw [element]
  split
  · refine accepts_next ‹_› fun rest _ => (accepts_elementValue true rest).mono ?_
    rintro ts e ⟨hnumber, -⟩
    obtain ⟨x, rfl, rfl⟩ := hnumber rfl
    exact .minus x
  · refine accepts_next ‹_› fun rest _ => (accepts_elementValue false rest).mono ?_
    rintro ts e ⟨-, hliteral⟩
    obtain ⟨t, c, rfl, ht, rfl⟩ := hliteral rfl
    exact .plus ht
  · refine (accepts_elementValue false s).mono ?_
    rintro ts e ⟨-, hliteral⟩
    obtain ⟨t, c, rfl, ht, rfl⟩ := hliteral rfl
    exact .literal ht

theorem rowsText_cons (row : List (List Token × Expr)) (rows : List (List (List Token × Expr))) :
    rowsText (row :: rows) =
      rowText row ++ rows.flatMap fun row => [.semicolon] ++ rowText row := by
  rw [rowsText, List.map_cons, intercalate_cons, List.flatMap_map]

/-- The rest of the row that is being read, and the rows behind it. -/
theorem accepts_elements (fuel : Nat) {row : List Expr} {rows : List (List Expr)} {s : Scan}
    (hs : s.Live) :
    Accepts (fun ts result => ∃ (more : List (List Token × Expr))
        (later : List (List (List Token × Expr))),
      (∀ x ∈ more, DerivesElement x.1 x.2) ∧
      (∀ row ∈ later, row ≠ [] ∧ ∀ x ∈ row, DerivesElement x.1 x.2) ∧
      ts = more.flatMap (fun x => [.comma] ++ x.1) ++
        later.flatMap (fun row => [.semicolon] ++ rowText row) ∧
      result = rows.reverse ++ [row.reverse ++ more.map Prod.snd] ++
        later.map (·.map Prod.snd)) s
      (elements fuel row rows s) := by
  induction fuel generalizing row rows s with
  | zero => exact accepts_unexpected
  | succ fuel ih =>
    rw [elements]
    split
    · refine accepts_next ‹_› fun rest _ => (accepts_element rest).bind fun us e last he hlast => ?_
      refine (ih hlast).mono ?_
      rintro ts result ⟨more, later, hmore, hlater, rfl, rfl⟩
      refine ⟨(us, e) :: more, later, List.forall_mem_cons.mpr ⟨he, hmore⟩, hlater, ?_, ?_⟩
      · simp
      · simp
    · refine accepts_next ‹_› fun rest _ => (accepts_element rest).bind fun us e last he hlast => ?_
      refine (ih hlast).mono ?_
      rintro ts result ⟨more, later, hmore, hlater, rfl, rfl⟩
      refine ⟨[], ((us, e) :: more) :: later, by simp, List.forall_mem_cons.mpr
        ⟨⟨by simp, List.forall_mem_cons.mpr ⟨he, hmore⟩⟩, hlater⟩, ?_, ?_⟩
      · simp [rowText_cons]
      · simp
    · exact accepts_ok ⟨[], [], by simp, by simp, by simp, by simp⟩ hs
    · exact accepts_fail
    · exact accepts_fail

theorem head?_of_elements {fuel : Nat} {row : List Expr} {rows result : List (List Expr)}
    {s rest : Scan} (h : elements fuel row rows s = .ok (result, rest)) :
    rest.head? = some .rightBrace := by
  induction fuel generalizing row rows s with
  | zero =>
    rw [elements, Scan.unexpected] at h
    split at h <;> cases h
  | succ fuel ih =>
    rw [elements] at h
    split at h
    · obtain ⟨next, -, h⟩ := exists_ok_of_bind h
      obtain ⟨⟨e, last⟩, -, h⟩ := exists_ok_of_bind h
      exact ih h
    · obtain ⟨next, -, h⟩ := exists_ok_of_bind h
      obtain ⟨⟨e, last⟩, -, h⟩ := exists_ok_of_bind h
      exact ih h
    · rename_i hbrace
      cases h
      exact hbrace
    · cases h
    · cases h

section

variable {levels : Nat}

theorem accepts_arrayConstant {room : Nat} {s : Scan} (hs : s.head? = some .leftBrace) :
    Accepts (Fits .primary levels room 0) s (arrayConstant (inside levels) room s) := by
  rw [arrayConstant]
  refine accepts_next hs fun rest hrest => accepts_enter fun l n hl hn => ?_
  subst hl hn
  refine (accepts_element rest).bind fun ts first last hfirst hlast => ?_
  refine (accepts_elements _ hlast).bind_of_eq fun us result last hrun hrows hlast => ?_
  simp only
  split
  · obtain ⟨more, later, hmore, hlater, rfl, rfl⟩ := hrows
    have hrows : ∀ row ∈ ((ts, first) :: more) :: later,
        row ≠ [] ∧ ∀ x ∈ row, DerivesElement x.1 x.2 :=
      List.forall_mem_cons.mpr ⟨⟨by simp, List.forall_mem_cons.mpr ⟨hfirst, hmore⟩⟩, hlater⟩
    have harray : Fits .primary (l + 1) (n + 1) 0 _ _ :=
      Fits.array (by simp) hrows (by simpa using ‹isRectangular _ = true›)
    refine accepts_pure_next (head?_of_elements hrun) ?_
    simpa [rowsText_cons, rowText_cons] using harray
  · exact accepts_fail

theorem accepts_callTail
    (hinner : ∀ l, levels = l + 1 → Meets .signed l (signedStep (inside l))) (f : String)
    {room : Nat} {s : Scan} (hs : s.head? = some .leftParen) :
    Accepts (fun ts => Fits .primary levels room 0 ([.identifier f] ++ ts)) s
      (callTail (inside levels) f.toUpper room s) := by
  rw [callTail]
  refine accepts_next hs fun rest hrest => accepts_enter fun l n hl hn => ?_
  subst hl hn
  simp only
  split
  · refine accepts_pure_next ‹_› ?_
    exact Fits.call f [] (by simp)
  · refine (accepts_arguments (meets_expression (hinner l rfl) n) _ hrest).bind
      fun ts args last hargs hlast => accepts_ok ?_ hlast
    obtain ⟨args, hne, hargs, rfl, rfl⟩ := hargs
    simpa using Fits.call f args hargs

theorem meets_primary (hinner : ∀ l, levels = l + 1 → Meets .signed l (signedStep (inside l))) :
    Meets .primary levels (primary (inside levels)) := by
  intro room s hs
  rw [primary]
  split
  · exact accepts_pure_next ‹_› (.leaf (.literal rfl) rfl rfl)
  · exact accepts_pure_next ‹_› (.leaf (.literal rfl) rfl rfl)
  · exact accepts_pure_next ‹_› (.leaf (.literal rfl) rfl rfl)
  · exact accepts_pure_next ‹_› (.leaf (.literal rfl) rfl rfl)
  · exact accepts_pure_next ‹_› (.leaf (.reference _) rfl rfl)
  · rename_i n hn
    refine accepts_next hn fun rest hrest => ?_
    split
    · exact accepts_callTail hinner n ‹_›
    · exact accepts_ok (.leaf (.name n) rfl rfl) hrest
  · exact accepts_arrayConstant ‹_›
  · refine accepts_next ‹_› fun rest hrest => ?_
    split
    · exact accepts_fail
    · refine accepts_enter fun l n hl hn => ?_
      subst hl hn
      refine (meets_expression (hinner l rfl) n rest hrest).bind fun ts e last he hlast => ?_
      simp only
      split
      · exact accepts_pure_next ‹_› he.paren
      · exact accepts_fail
  · exact accepts_unexpected

theorem meets_rangeOperand
    (hinner : ∀ l, levels = l + 1 → Meets .signed l (signedStep (inside l))) :
    Meets .range levels (rangeOperand (inside levels)) := by
  intro room s hs
  rw [rangeOperand]
  refine (meets_primary hinner room s hs).bind fun ts left rest hleft hrest => ?_
  simp only
  split
  · split
    · rename_i a
      refine accepts_next ‹_› fun last hlast => ?_
      split
      · rename_i b hb
        exact accepts_pure_next hb (.leaf (.corners b hleft.derives) rfl rfl)
      · exact accepts_fail
    · exact accepts_fail
  · refine accepts_ok ?_ hrest
    rw [List.append_nil]
    exact hleft.single

theorem accepts_percents {top room : Nat} {ts : List Token} {e : Expr}
    (he : Fits .percentage levels top room ts e) {s : Scan} (hs : s.Live) :
    Accepts (fun us => Fits .percentage levels top 0 (ts ++ us)) s (percents room e s) := by
  have hstop : Fits .percentage levels top 0 (ts ++ []) e := by
    rw [List.append_nil]
    exact he.finish
  induction room generalizing ts e s with
  | zero =>
    rw [percents]
    split
    · exact accepts_next ‹_› fun _ _ => accepts_fail
    · exact accepts_ok hstop hs
  | succ room ih =>
    rw [percents]
    split
    · refine accepts_next ‹_› fun rest hrest => (ih he.percent hrest ?_).mono fun us e h => ?_
      · rw [List.append_nil]
        exact he.percent.finish
      · simpa using h
    · exact accepts_ok hstop hs

theorem meets_powerOperand
    (hinner : ∀ l, levels = l + 1 → Meets .signed l (signedStep (inside l))) :
    Meets .power levels (powerOperand (inside levels)) := by
  intro room s hs
  rw [powerOperand]
  have hbase : Accepts (Fits .percentage levels room 0) s (postfixOperand (inside levels) room s) :=
    (meets_rangeOperand hinner room s hs).bind fun _ _ _ he hrest =>
      accepts_percents he.whole hrest
  refine hbase.bind fun ts base rest hbase hrest => ?_
  simp only
  split
  · refine accepts_next ‹_› fun last hlast => accepts_enter fun l n hl hn => ?_
    subst hl hn
    refine (hinner l rfl n last hlast).bind fun us exponent last hexponent hlast =>
      accepts_ok ?_ hlast
    simpa using hbase.power hexponent
  · refine accepts_ok ?_ hrest
    rw [List.append_nil]
    exact hbase.base

theorem meets_signedStep
    (hinner : ∀ l, levels = l + 1 → Meets .signed l (signedStep (inside l))) :
    Meets .signed levels (signedStep (inside levels)) := by
  intro room s hs
  rw [signedStep]
  split
  · rename_i op hop
    obtain ⟨t, ht, hop⟩ := Option.bind_eq_some_iff.mp hop
    refine accepts_next ht fun rest hrest => accepts_enter fun l n hl hn => ?_
    subst hl hn
    refine (hinner l rfl n rest hrest).bind fun ts e last he hlast => accepts_ok ?_ hlast
    simpa using he.sign hop
  · exact (meets_powerOperand hinner room s hs).mono fun _ _ => Fits.unsigned

end

theorem meets_signed (levels : Nat) : Meets .signed levels (signedStep (inside levels)) := by
  induction levels with
  | zero => exact meets_signedStep (by simp)
  | succ levels ih => exact meets_signedStep (by simpa using ih)

theorem Scan.tokens?_eq_some {s : Scan} {ts : List Token} :
    s.tokens? = some ts ↔ ∃ p, Begins ts s (.finish p) := by
  constructor
  · intro h
    induction s generalizing ts with
    | finish p =>
      obtain rfl : [] = ts := Option.some.inj h
      exact ⟨p, .nil⟩
    | fault e => cases h
    | token t p rest ih =>
      obtain ⟨us, hus, rfl⟩ := Option.map_eq_some_iff.mp h
      obtain ⟨q, hq⟩ := ih hus
      exact ⟨q, hq.cons⟩
  · rintro ⟨p, h⟩
    generalize hend : Scan.finish p = rest at h
    induction h with
    | nil => rw [← hend, tokens?]
    | cons _ ih => rw [tokens?, ih hend, Option.map_some]

/-- The parser of a whole formula reads an expression that ends with its tokens. -/
theorem exists_of_wholeExpression {s : Scan} {e : Expr} (h : wholeExpression s = .ok e) :
    s.Live ∧ ∃ rest, expression (signedOperand maxNesting) maxHeight s = .ok (e, rest) ∧
      rest.head? = none := by
  rw [wholeExpression] at h
  obtain ⟨s', hs', h⟩ := exists_ok_of_bind h
  obtain ⟨rfl, hlive⟩ : s = s' ∧ s.Live := by
    cases s with
    | fault e => cases hs'
    | _ => exact ⟨Except.ok.inj hs', by simp [Scan.Live]⟩
  refine ⟨hlive, ?_⟩
  simp only at h
  split at h
  · cases h
  · obtain ⟨⟨e', rest⟩, hrun, h⟩ := exists_ok_of_bind h
    simp only at h
    split at h
    · rename_i hend
      cases h
      exact ⟨rest, hrun, hend⟩
    · cases h
    · cases h

theorem wholeExpression_fits {s : Scan} {e : Expr} (h : wholeExpression s = .ok e) :
    ∃ ts, s.tokens? = some ts ∧ Fits (.chain .comparison) maxNesting maxHeight 0 ts e := by
  obtain ⟨hs, rest, hrun, hend⟩ := exists_of_wholeExpression h
  rw [signedOperand_eq] at hrun
  obtain ⟨ts, hfits, hts, hrest⟩ := meets_expression (meets_signed _) _ s hs e rest hrun
  refine ⟨ts, Scan.tokens?_eq_some.mpr ?_, hfits⟩
  cases rest with
  | finish p => exact ⟨p, hts⟩
  | fault f => exact absurd rfl (hrest f)
  | token t p rest => simp [Scan.head?] at hend

theorem parse_of_scan {s : String} {cs : List Char} {scan : Scan} {e : Expr}
    (hs : Text.trimChars s.toList = '=' :: cs) (hscan : scanFrom 0 1 cs = scan)
    (h : wholeExpression scan = .ok e) : parse s = .ok e := by
  rw [parse, hs]
  simp only [hscan]
  exact h

/-- The tokens of a formula that is accepted derive its tree, within the limits. -/
theorem parse_fits {s : String} {e : Expr} (h : parse s = .ok e) :
    ∃ ts, formulaTokens? s = some ts ∧ Fits (.chain .comparison) maxNesting maxHeight 0 ts e := by
  rw [parse] at h
  split at h
  · rename_i cs hcs
    rw [formulaTokens?, hcs]
    exact wholeExpression_fits h
  · cases h

end Spreadsheet.Formula
