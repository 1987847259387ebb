import Mathlib.Data.List.TakeWhile
import Mathlib.Tactic.SplitIfs
import MessageBus.Proofs.Json.Grammar
/-!
Numbers and string literals are read exactly as the grammar writes them. What is read is written so
(`numeral?_sound`, `literal?_sound`), and what is written so is read, in front of any text for
literals (`literal?_append`), and for numbers in front of a text with which the number ends
(`numeral?_append`): the reader takes all digits that there are.
-/

set_option autoImplicit false
set_option relaxedAutoImplicit false

namespace MessageBus.JsonText

section Gaps

variable {s gap : List Char}

theorem skipGap_append (hgap : IsGap gap) (s : List Char) : skipGap (gap ++ s) = skipGap s :=
  List.dropWhile_append_of_pos hgap

theorem skipGap_cons {c : Char} (h : isGap c = false) (rest : List Char) :
    skipGap (c :: rest) = c :: rest :=
  List.dropWhile_cons_of_neg (Bool.eq_false_iff.mp h)

/-- What is skipped is a gap. -/
theorem exists_gap (s : List Char) : ∃ gap, IsGap gap ∧ s = gap ++ skipGap s :=
  ⟨s.takeWhile isGap, fun _ hc ↦ List.mem_takeWhile_imp hc, List.takeWhile_append_dropWhile.symm⟩

theorem IsGap.append {more : List Char} (hgap : IsGap gap) (hmore : IsGap more) :
    IsGap (gap ++ more) := by
  intro c hc
  exact (List.mem_append.mp hc).elim (hgap c) (hmore c)

end Gaps

section Numerals

variable {s rest gap : List Char}

/-- Whether a number that is read ends in front of a text. -/
def Ends (rest : List Char) : Prop :=
  ∀ c ∈ rest.head?, Decimal.isDigit c = false ∧ c ≠ '.' ∧ c ≠ 'e' ∧ c ≠ 'E'

theorem ends_cons {c : Char} (h : Decimal.isDigit c = false ∧ c ≠ '.' ∧ c ≠ 'e' ∧ c ≠ 'E')
    (rest : List Char) : Ends (c :: rest) := by
  rintro d ⟨rfl⟩
  exact h

theorem Ends.gap_append (hgap : IsGap gap) (h : Ends rest) : Ends (gap ++ rest) := by
  cases gap with
  | nil => exact h
  | cons c gap =>
    rintro d ⟨rfl⟩
    have hc := hgap c List.mem_cons_self
    simp only [isGap, Bool.or_eq_true, decide_eq_true_eq] at hc
    rcases hc with ((rfl | rfl) | rfl) | rfl <;> decide

theorem digits?_sound {run : List Char} (h : digits? s = some (run, rest)) :
    s = run ++ rest ∧ IsDigits run := by
  rw [digits?] at h
  split at h
  · cases h
  · next hrun =>
    cases h
    exact ⟨List.takeWhile_append_dropWhile.symm, hrun, fun _ hc ↦ List.mem_takeWhile_imp hc⟩

theorem digits?_append {run : List Char} (h : IsDigits run)
    (hrest : ∀ c ∈ rest.head?, Decimal.isDigit c = false) :
    digits? (run ++ rest) = some (run, rest) := by
  have hnone : rest.takeWhile Decimal.isDigit = [] ∧ rest.dropWhile Decimal.isDigit = rest := by
    cases rest with
    | nil => exact ⟨rfl, rfl⟩
    | cons c rest => simp [hrest c rfl]
  rw [digits?, List.takeWhile_append_of_pos h.2, List.dropWhile_append_of_pos h.2, hnone.1, hnone.2]
  simp [h.1]

theorem fraction?_sound {fraction : Option (List Char)} (h : fraction? s = some (fraction, rest)) :
    ∃ f, s = f ++ rest ∧ IsFraction fraction f := by
  unfold fraction? at h
  split at h
  · next s =>
    obtain ⟨⟨run, rest⟩, hdigits, hfraction⟩ := Option.map_eq_some_iff.mp h
    cases hfraction
    obtain ⟨rfl, hrun⟩ := digits?_sound hdigits
    exact ⟨'.' :: run, rfl, .some hrun⟩
  · cases h
    exact ⟨[], rfl, .none⟩

theorem fraction?_append {fraction : Option (List Char)} {f : List Char}
    (h : IsFraction fraction f)
    (hrest : ∀ c ∈ rest.head?, Decimal.isDigit c = false ∧ c ≠ '.') :
    fraction? (f ++ rest) = some (fraction, rest) := by
  cases h with
  | none =>
    rw [List.nil_append, fraction?]
    rintro rest rfl
    exact (hrest '.' rfl).2 rfl
  | some hdigits =>
    rw [List.cons_append, fraction?, digits?_append hdigits fun c hc ↦ (hrest c hc).1]
    rfl

theorem exponent?_sound {exponent : Option (Bool × List Char)}
    (h : exponent? s = some (exponent, rest)) : ∃ e, s = e ++ rest ∧ IsExponent exponent e := by
  unfold exponent? at h
  split at h
  · next c s =>
    split at h
    · next hmark =>
      split at h
      all_goals
        obtain ⟨⟨run, rest⟩, hdigits, hexponent⟩ := Option.map_eq_some_iff.mp h
        cases hexponent
        obtain ⟨rfl, hrun⟩ := digits?_sound hdigits
      · exact ⟨c :: (['+'] ++ run), rfl, .some hmark (by decide) hrun⟩
      · exact ⟨c :: (['-'] ++ run), rfl, .some hmark (by decide) hrun⟩
      · exact ⟨c :: ([] ++ run), rfl, .some hmark (by decide) hrun⟩
    · cases h
      exact ⟨[], rfl, .none⟩
  · cases h
    exact ⟨[], rfl, .none⟩

theorem exponent?_append {exponent : Option (Bool × List Char)} {e : List Char}
    (h : IsExponent exponent e) (hrest : Ends rest) :
    exponent? (e ++ rest) = some (exponent, rest) := by
  cases h with
  | none =>
    cases rest with
    | nil => rfl
    | cons c rest =>
      obtain ⟨-, -, he, hE⟩ := hrest c rfl
      simp [exponent?, he, hE]
  | @some mark sign digits negative hmark hsign hdigits =>
    have hread := digits?_append hdigits fun c hc ↦ (hrest c hc).1
    simp only [exponentSigns, List.mem_cons, Prod.mk.injEq, List.not_mem_nil, or_false] at hsign
    rcases hsign with ⟨rfl, rfl⟩ | ⟨rfl, rfl⟩ | ⟨rfl, rfl⟩
    · obtain ⟨d, digits, rfl⟩ := List.exists_cons_of_ne_nil hdigits.1
      have hd : Decimal.isDigit d := hdigits.2 d List.mem_cons_self
      have hsign : d ≠ '+' ∧ d ≠ '-' := by
        constructor <;> rintro rfl <;> exact absurd hd (by decide)
      rw [List.nil_append, List.cons_append, List.cons_append] at *
      simp [exponent?, hmark, hread, hsign]
    · simp [exponent?, hmark, hread]
    · simp [exponent?, hmark, hread]

theorem unsigned?_sound {negative : Bool} {n : Numeral}
    (h : unsigned? negative s = some (n, rest)) :
    ∃ v, s = v ++ rest ∧ IsNumeral n ((if negative then ['-'] else []) ++ v) := by
  simp only [unsigned?, Option.bind_eq_bind, Option.bind_eq_some_iff, Prod.exists] at h
  obtain ⟨whole, behind, hdigits, h⟩ := h
  split at h
  · cases h
  · next hzero =>
    simp only [Option.bind_eq_some_iff, Prod.exists] at h
    obtain ⟨fraction, behind', hfraction, exponent, behind'', hexponent, h⟩ := h
    cases h
    obtain ⟨rfl, hwhole⟩ := digits?_sound hdigits
    obtain ⟨f, rfl, hf⟩ := fraction?_sound hfraction
    obtain ⟨e, rfl, he⟩ := exponent?_sound hexponent
    refine ⟨whole ++ (f ++ e), by simp, .intro negative hwhole (fun hhead ↦ ?_) hf he⟩
    match whole, hhead with
    | [_], rfl => rfl
    | _ :: _ :: _, hhead => exact absurd ⟨by simp, hhead⟩ hzero

theorem numeral?_sound {n : Numeral} (h : numeral? s = some (n, rest)) :
    ∃ v, s = v ++ rest ∧ IsNumeral n v := by
  unfold numeral? at h
  split at h
  · obtain ⟨v, rfl, hv⟩ := unsigned?_sound h
    exact ⟨'-' :: v, rfl, hv⟩
  · exact unsigned?_sound h

/-- A fraction does not begin with a digit, whatever follows it. -/
theorem unsigned?_append (negative : Bool) {whole f e : List Char} {fraction : Option (List Char)}
    {exponent : Option (Bool × List Char)} (hwhole : IsDigits whole)
    (hzero : whole.head? = some '0' → whole = ['0']) (hf : IsFraction fraction f)
    (he : IsExponent exponent e) (hrest : Ends rest) :
    unsigned? negative (whole ++ (f ++ (e ++ rest))) =
      some (⟨negative, whole, fraction, exponent⟩, rest) := by
  have hexponent : ∀ c ∈ (e ++ rest).head?, Decimal.isDigit c = false ∧ c ≠ '.' := by
    cases he with
    | none => exact fun c hc ↦ ⟨(hrest c hc).1, (hrest c hc).2.1⟩
    | some hmark =>
      rintro c ⟨rfl⟩
      rcases hmark with rfl | rfl <;> decide
  have hfraction : ∀ c ∈ (f ++ (e ++ rest)).head?, Decimal.isDigit c = false := by
    cases hf with
    | none => exact fun c hc ↦ (hexponent c hc).1
    | some =>
      rintro c ⟨rfl⟩
      decide
  have hwholeZero : ¬ (whole.length > 1 ∧ whole.head? = some '0') := by
    rintro ⟨hlength, hhead⟩
    rw [hzero hhead] at hlength
    exact Nat.lt_irrefl _ hlength
  simp [unsigned?, digits?_append hwhole hfraction, fraction?_append hf hexponent,
    exponent?_append he hrest, hwholeZero]

theorem numeral?_append {n : Numeral} (h : IsNumeral n s) (hrest : Ends rest) :
    numeral? (s ++ rest) = some (n, rest) := by
  obtain ⟨negative, hwhole, hzero, hf, he⟩ := h
  have hread := unsigned?_append negative hwhole hzero hf he hrest
  cases negative with
  | true => simpa [numeral?] using hread
  | false =>
    obtain ⟨d, whole, rfl⟩ := List.exists_cons_of_ne_nil hwhole.1
    have hd : d ≠ '-' := by
      rintro rfl
      exact absurd (hwhole.2 '-' List.mem_cons_self) (by decide)
    simpa [numeral?, hd] using hread

/-- A number begins with a sign or a digit. -/
theorem IsNumeral.exists_eq {n : Numeral} (h : IsNumeral n s) :
    ∃ c tail, s = c :: tail ∧ (c = '-' ∨ Decimal.isDigit c) := by
  obtain ⟨negative, hwhole, -, -, -⟩ := h
  cases negative with
  | true => exact ⟨'-', _, rfl, .inl rfl⟩
  | false =>
    obtain ⟨d, whole, rfl⟩ := List.exists_cons_of_ne_nil hwhole.1
    exact ⟨d, _, rfl, .inr (hwhole.2 d List.mem_cons_self)⟩

end Numerals

section Literals

attribute [local simp] denoted? literal?

variable {read : Option (List Char)} {s rest : List Char} {ps qs : List Piece}
  {text : Option String}

/-- The characters of a literal, when some of them were read and stand reversed. -/
def joined (read : Option (List Char)) (ps : List Piece) : Option (List Char) :=
  read.bind fun front ↦ (denoted? ps).map (front.reverse ++ ·)

theorem joined_nil (read : Option (List Char)) : joined read [] = read.map List.reverse := by
  cases read <;> simp [joined]

theorem joined_of_map {c : Char} (h : denoted? qs = (denoted? ps).map (c :: ·))
    (read : Option (List Char)) : joined read qs = joined (read.map (c :: ·)) ps := by
  cases read <;> simp [joined, h, Function.comp_def]

theorem joined_of_none (h : denoted? qs = none) (read : Option (List Char)) :
    joined read qs = none := by
  cases read <;> simp [joined, h]

theorem denoted?_pair {u v : Nat} (hu : isLeading u) (hv : isTrailing v) (ps : List Piece) :
    denoted? (.unit u :: .unit v :: ps) = (denoted? ps).map (pair u v :: ·) := by
  simp [hu, hv]

theorem denoted?_unit {u : Nat} (hleading : isLeading u = false) (htrailing : isTrailing u = false)
    (ps : List Piece) : denoted? (.unit u :: ps) = (denoted? ps).map (Char.ofNat u :: ·) := by
  match ps with
  | [] | .char _ :: _ | .unit _ :: _ => simp [hleading, htrailing]

theorem denoted?_trailing {u : Nat} (hleading : isLeading u = false) (hu : isTrailing u)
    (ps : List Piece) : denoted? (.unit u :: ps) = none := by
  match ps with
  | [] | .char _ :: _ | .unit _ :: _ => simp [hleading, hu]

theorem denoted?_leading {u : Nat} (hu : isLeading u)
    (hps : ∀ v tail, ps = .unit v :: tail → isTrailing v = false) :
    denoted? (.unit u :: ps) = none := by
  match ps, hps with
  | [], _ | .char _ :: _, _ => simp [hu]
  | .unit v :: tail, hps => simp [hu, hps v tail rfl]

theorem denoted?_char (c : Char) (ps : List Piece) :
    denoted? (.char c :: ps) = (denoted? ps).map (c :: ·) := by
  rw [denoted?]

theorem escaped?_eq_some_iff {e c : Char} : escaped? e = some c ↔ (e, c) ∈ escapes := by
  constructor
  · intro h
    unfold escaped? at h
    split_ifs at h with hself
    · rcases hself with rfl | rfl | rfl <;> cases h <;> decide
    all_goals
      subst_vars
      cases h
      decide
  · intro h
    have hall : ∀ x ∈ escapes, escaped? x.1 = some x.2 := by decide
    exact hall (e, c) h

/-- A literal that is read is spelled by pieces that denote its text. -/
theorem literal?_sound (h : literal? read s = some (text, rest)) :
    ∃ ps v, s = v ++ '"' :: rest ∧ Spells ps v ∧ text = (joined read ps).map String.ofList := by
  fun_induction literal? read s with
  | case1 | case3 | case4 | case10 | case12 => cases h
  | case2 read rest =>
    cases h
    refine ⟨[], [], rfl, .nil, ?_⟩
    rw [joined_nil, Option.map_map]
    rfl
  | case5 read a b c d u hunit hleading a' b' c' d' rest v hunit' htrailing ih =>
    obtain ⟨ps, s, rfl, hps, rfl⟩ := ih h
    refine ⟨.unit u :: .unit v :: ps, _, rfl, .unit hunit (.unit hunit' hps), ?_⟩
    rw [joined_of_map (denoted?_pair hleading htrailing ps)]
  | case6 read a b c d u hunit hleading a' b' c' d' rest v hunit' htrailing ih =>
    obtain ⟨ps, s, rfl, hps, rfl⟩ := ih h
    refine ⟨.unit u :: .unit v :: ps, _, rfl, .unit hunit (.unit hunit' hps), ?_⟩
    rw [joined_of_none (denoted?_leading hleading ?_)]
    · rfl
    · rintro v tail ⟨⟩
      simpa using htrailing
  | case7 read a b c d u hunit hleading rest hother ih =>
    obtain ⟨ps, s, rfl, hps, rfl⟩ := ih h
    refine ⟨.unit u :: ps, _, rfl, .unit hunit hps, ?_⟩
    rw [joined_of_none (denoted?_leading hleading ?_)]
    · rfl
    · rintro v tail rfl
      cases hps with
      | unit => exact absurd rfl (hother _ _ _ _ _)
  | case8 read a b c d rest u hunit hleading htrailing ih =>
    obtain ⟨ps, s, rfl, hps, rfl⟩ := ih h
    refine ⟨.unit u :: ps, _, rfl, .unit hunit hps, ?_⟩
    rw [joined_of_none (denoted?_trailing (by simpa using hleading) htrailing ps)]
    rfl
  | case9 read a b c d rest u hunit hleading htrailing ih =>
    obtain ⟨ps, s, rfl, hps, rfl⟩ := ih h
    refine ⟨.unit u :: ps, _, rfl, .unit hunit hps, ?_⟩
    rw [joined_of_map (denoted?_unit (by simpa using hleading) (by simpa using htrailing) ps)]
  | case11 read e rest _ c hescaped ih =>
    obtain ⟨ps, s, rfl, hps, rfl⟩ := ih h
    refine ⟨.char c :: ps, _, rfl, .escape (escaped?_eq_some_iff.mp hescaped) hps, ?_⟩
    rw [joined_of_map (denoted?_char c ps)]
  | case13 read c rest hquote _ _ hplain ih =>
    obtain ⟨ps, s, rfl, hps, rfl⟩ := ih h
    obtain ⟨hcontrol, hbackslash⟩ := not_or.mp hplain
    refine ⟨.char c :: ps, _, rfl, .plain (Nat.not_lt.mp hcontrol) hquote hbackslash hps, ?_⟩
    rw [joined_of_map (denoted?_char c ps)]

theorem literal?_char {c : Char} (hcontrol : 0x20 ≤ c.toNat) (hquote : c ≠ '"')
    (hbackslash : c ≠ '\\') (read : Option (List Char)) (s : List Char) :
    literal? read (c :: s) = literal? (read.map (c :: ·)) s := by
  rw [literal?.eq_def]
  simp [hbackslash, Nat.not_lt.mpr hcontrol]

theorem literal?_escape {e c : Char} (he : (e, c) ∈ escapes) (read : Option (List Char))
    (s : List Char) : literal? read ('\\' :: e :: s) = literal? (read.map (c :: ·)) s := by
  have hall : ∀ x ∈ escapes,
      literal? read ('\\' :: x.1 :: s) = literal? (read.map (x.2 :: ·)) s := by
    simp only [escapes, List.forall_mem_cons]
    exact ⟨rfl, rfl, rfl, rfl, rfl, rfl, rfl, rfl, List.forall_mem_nil _⟩
  exact hall (e, c) he

section CodeUnits

variable {a b c d : Char} {u : Nat}

theorem literal?_unit (hunit : codeUnit? a b c d = some u) (hleading : isLeading u = false)
    (read : Option (List Char)) (s : List Char) :
    literal? read ('\\' :: 'u' :: a :: b :: c :: d :: s) =
      if isTrailing u then literal? none s else literal? (read.map (Char.ofNat u :: ·)) s := by
  rw [literal?, hunit]
  simp [hleading]

theorem literal?_surrogates {a' b' c' d' : Char} {v : Nat} (hunit : codeUnit? a b c d = some u)
    (hleading : isLeading u) (hunit' : codeUnit? a' b' c' d' = some v) (read : Option (List Char))
    (s : List Char) :
    literal? read
        ('\\' :: 'u' :: a :: b :: c :: d :: '\\' :: 'u' :: a' :: b' :: c' :: d' :: s) =
      if isTrailing v then literal? (read.map (pair u v :: ·)) s else literal? none s := by
  rw [literal?, hunit]
  simp [hleading, hunit']

/-- Whether a text begins with a code unit that is written in hexadecimal. -/
def BeginsWithUnit (s : List Char) : Prop :=
  ∃ a b c d tail, s = '\\' :: 'u' :: a :: b :: c :: d :: tail

theorem literal?_leading (hunit : codeUnit? a b c d = some u) (hleading : isLeading u)
    (hother : ¬ BeginsWithUnit s) (read : Option (List Char)) :
    literal? read ('\\' :: 'u' :: a :: b :: c :: d :: s) = literal? none s := by
  rw [literal?, hunit]
  dsimp only
  rw [if_pos hleading]
  split
  · exact absurd ⟨_, _, _, _, _, rfl⟩ hother
  · rfl

theorem Spells.not_beginsWithUnit (h : Spells ps s) (hps : ∀ v tail, ps ≠ .unit v :: tail)
    (rest : List Char) : ¬ BeginsWithUnit (s ++ '"' :: rest) := by
  rintro ⟨a, b, c, d, tail, heq⟩
  cases h with
  | nil => cases heq
  | plain _ _ hbackslash => exact hbackslash (List.cons.inj heq).1
  | escape he =>
    obtain rfl := (List.cons.inj (List.cons.inj heq).2).1
    simp [escapes] at he
  | unit => exact hps _ _ rfl

end CodeUnits

/-- What pieces spell is read as what they denote. The recursion is on the pieces, of which a pair
of surrogates takes two. -/
theorem literal?_append : ∀ {ps : List Piece} {s : List Char}, Spells ps s →
    ∀ (read : Option (List Char)) (rest : List Char),
      literal? read (s ++ '"' :: rest) = some ((joined read ps).map String.ofList, rest)
  | [], _, .nil, read, rest => by
    rw [joined_nil, Option.map_map]
    rfl
  | .char c :: ps, _, .plain hcontrol hquote hbackslash h, read, rest => by
    rw [List.cons_append, literal?_char hcontrol hquote hbackslash, literal?_append h,
      joined_of_map (denoted?_char c ps)]
  | .char c :: ps, _, .escape he h, read, rest => by
    rw [List.cons_append, List.cons_append, literal?_escape he, literal?_append h,
      joined_of_map (denoted?_char c ps)]
  | .unit u :: ps, _, .unit hunit h, read, rest => by
    simp only [List.cons_append]
    cases hleading : isLeading u with
    | false =>
      rw [literal?_unit hunit hleading, literal?_append h, literal?_append h]
      cases htrailing : isTrailing u with
      | true =>
        rw [if_pos rfl, joined_of_none (denoted?_trailing hleading htrailing ps)]
        rfl
      | false =>
        rw [if_neg Bool.false_ne_true, joined_of_map (denoted?_unit hleading htrailing ps)]
    | true =>
      match ps, h with
      | .unit v :: ps, .unit hunit' h =>
        simp only [List.cons_append]
        rw [literal?_surrogates hunit hleading hunit', literal?_append h, literal?_append h]
        cases htrailing : isTrailing v with
        | true => rw [if_pos rfl, joined_of_map (denoted?_pair hleading htrailing ps)]
        | false =>
          have hnone : denoted? (.unit u :: .unit v :: ps) = none :=
            denoted?_leading hleading fun w tail heq ↦ by cases heq; exact htrailing
          rw [if_neg Bool.false_ne_true, joined_of_none hnone]
          rfl
      | [], h | .char c :: ps, h =>
        have hother := h.not_beginsWithUnit (by simp) rest
        rw [literal?_leading hunit hleading hother, literal?_append h,
          joined_of_none (denoted?_leading hleading (by simp))]
        rfl

theorem joined_some_nil (ps : List Piece) : joined (some []) ps = denoted? ps := by
  simp [joined]

theorem isLiteral_of_literal? (h : literal? (some []) s = some (text, rest)) :
    ∃ k, '"' :: s = k ++ rest ∧ IsLiteral text k := by
  obtain ⟨ps, v, rfl, hps, rfl⟩ := literal?_sound h
  rw [joined_some_nil]
  exact ⟨'"' :: (v ++ ['"']), by simp, .intro hps⟩

theorem IsLiteral.exists_literal? {k : List Char} (h : IsLiteral text k) (rest : List Char) :
    ∃ s, k ++ rest = '"' :: s ∧ literal? (some []) s = some (text, rest) := by
  obtain @⟨ps, s, hps⟩ := h
  refine ⟨s ++ '"' :: rest, by simp, ?_⟩
  rw [literal?_append hps, joined_some_nil]

end Literals

end MessageBus.JsonText
