import Formulary.Proofs.Number.Reading
import Formulary.Token.Scan
import Mathlib.Data.List.Chain

/-!
# Scanning takes tokens back apart

A token of the right shape is scanned as itself when it stands at the front of a text, provided that no
value runs into the rest of the text (`scanChars_append`). The proviso is `Text.Detached`, and it only
concerns values: an operator or a parenthesis is one character, whatever follows.

Blanks in front of a text make no difference to its tokens (`scanChars_append_of_isBlank`), and no value
runs into a blank. A sequence of tokens can therefore be printed with any blanks between the texts, and
scanning gives the sequence back (`scanChars_printedChars`). Even no blank at all will do, unless two
values stand side by side: what comes after a value is then an operator or a parenthesis, and these go on
with no value.
-/

set_option autoImplicit false

namespace Formulary

@[simp] theorem scanChars_nil : scanChars [] = [] := by
  rw [scanChars, Piece.pieces, List.filterMap_nil]

/-- Scanning one piece after the other. -/
theorem scanChars_cons (c : Char) (s : List Char) :
    scanChars (c :: s) = (Piece.cut c s).1.token?.toList ++ scanChars (Piece.cut c s).2 := by
  rw [scanChars, Piece.pieces, List.filterMap_cons, scanChars]
  cases (Piece.cut c s).1.token? with
  | none => rfl
  | some t => rfl

namespace Piece

/-! ## What is cut off, by the first character -/

/-- The characters that are pieces by themselves. -/
def isSingle (c : Char) : Bool :=
  c == '(' || c == ')' || Token.isOperatorChar c

theorem cases_of_isSingle {c : Char} (h : isSingle c = true) :
    c = '(' ∨ c = ')' ∨ c = '+' ∨ c = '-' ∨ c = '*' ∨ c = '/' := by
  simp only [isSingle, Token.isOperatorChar, Bool.or_eq_true, beq_iff_eq] at h
  rcases h with (h | h) | ((h | h) | h) | h
  · exact .inl h
  · exact .inr (.inl h)
  · exact .inr (.inr (.inl h))
  · exact .inr (.inr (.inr (.inl h)))
  · exact .inr (.inr (.inr (.inr (.inl h))))
  · exact .inr (.inr (.inr (.inr (.inr h))))

/-- What is cut off by itself does not depend on what follows it. -/
theorem exists_cut_single {c : Char} (h : isSingle c = true) :
    ∃ form, ∀ s, cut c s = (⟨form, [c]⟩, s) := by
  rcases cases_of_isSingle h with rfl | rfl | rfl | rfl | rfl | rfl
  all_goals exact ⟨_, fun _ => rfl⟩

theorem detached_of_isSingle {c : Char} (h : isSingle c = true) (s : List Char) :
    Text.Detached (c :: s) := by
  intro d hd
  obtain rfl : c = d := by simpa using hd
  rcases cases_of_isSingle h with rfl | rfl | rfl | rfl | rfl | rfl
  all_goals decide

theorem isSingle_of_isAlphanum {c : Char} (h : c.isAlphanum = true ∨ c = '.') :
    isSingle c = false := by
  cases hs : isSingle c with
  | false => rfl
  | true =>
    rcases cases_of_isSingle hs with rfl | rfl | rfl | rfl | rfl | rfl
    all_goals exact absurd h (by decide)

/-- The first three tests of `cut` fail at once. -/
theorem cut_of_not_isSingle {c : Char} (h : isSingle c = false) (s : List Char) :
    cut c s =
      if c.isAlpha then
        (⟨.word, c :: s.takeWhile Char.isAlphanum⟩, s.dropWhile Char.isAlphanum)
      else
        match Literal.read (c :: s) with
        | some (l, rest) => (⟨.number, l.chars⟩, rest)
        | none =>
          if Text.isBlank c then
            (⟨.blank, c :: s.takeWhile Text.isBlank⟩, s.dropWhile Text.isBlank)
          else (⟨.other, [c]⟩, s) := by
  simp only [isSingle, Bool.or_eq_false_iff, beq_eq_false_iff_ne] at h
  obtain ⟨⟨ho, hc⟩, hop⟩ := h
  rw [cut, if_neg ho, if_neg hc, hop]
  exact if_neg Bool.false_ne_true

theorem cut_word {c : Char} (h : c.isAlpha = true) (s : List Char) :
    cut c s = (⟨.word, c :: s.takeWhile Char.isAlphanum⟩, s.dropWhile Char.isAlphanum) := by
  have alnum : c.isAlphanum = true := by rw [Char.isAlphanum, h, Bool.true_or]
  rw [cut_of_not_isSingle (isSingle_of_isAlphanum (.inl alnum)), if_pos h]

theorem isAlpha_of_digit_or_point {c : Char} (h : c.isDigit = true ∨ c = '.') :
    c.isAlpha = false := by
  rcases h with h | rfl
  · exact Text.isAlpha_of_isDigit h
  · decide

theorem cut_number {l : Literal} (h : l.WellFormed) {rest : List Char} (stop : Text.Detached rest)
    {c : Char} {s : List Char} (hl : l.chars = c :: s) :
    cut c (s ++ rest) = (⟨.number, l.chars⟩, rest) := by
  obtain ⟨c', s', hl', first⟩ := h.head?_chars
  obtain ⟨rfl, rfl⟩ := List.cons.inj (hl.symm.trans hl')
  have alnum : c.isAlphanum = true ∨ c = '.' :=
    first.imp_left fun hd => by rw [Char.isAlphanum, hd, Bool.or_true]
  have read := Literal.read_append h stop
  rw [hl, List.cons_append] at read
  rw [cut_of_not_isSingle (isSingle_of_isAlphanum alnum), if_neg (by
    simp [isAlpha_of_digit_or_point first]), read]

end Piece

namespace Token

/-! ## Shapes -/

/-- A token that is no value is a single character. -/
theorem exists_single {t : Token} (hs : t.hasShape = true) (hv : t.kind.isValue = false) :
    ∃ c, Piece.isSingle c = true ∧ t.text.toList = [c] ∧
      ∀ rest, (Piece.cut c rest).1.token? = some t ∧ (Piece.cut c rest).2 = rest := by
  obtain ⟨kind, text⟩ := t
  cases kind with
  | number | var => exact Bool.noConfusion hv
  | openParen =>
    obtain rfl : text = "(" := by simpa [hasShape] using hs
    exact ⟨'(', by decide, by decide, fun _ => ⟨rfl, rfl⟩⟩
  | closeParen =>
    obtain rfl : text = ")" := by simpa [hasShape] using hs
    exact ⟨')', by decide, by decide, fun _ => ⟨rfl, rfl⟩⟩
  | operator =>
    have hop : isOperatorText text.toList = true := hs
    unfold isOperatorText at hop
    split at hop
    · next c hc =>
      have notParen : c ≠ '(' ∧ c ≠ ')' := by
        constructor
        · rintro rfl
          exact absurd hop (by decide)
        · rintro rfl
          exact absurd hop (by decide)
      refine ⟨c, by simp [Piece.isSingle, hop], hc, fun rest => ?_⟩
      rw [Piece.cut, if_neg notParen.1, if_neg notParen.2, if_pos hop]
      refine ⟨?_, rfl⟩
      rw [Piece.token?, ← hc, String.ofList_toList]
      rfl
    · exact absurd hop Bool.false_ne_true
  | unrecognized => exact absurd hs Bool.false_ne_true

theorem isAlphanum_of_isVariableName {s : List Char} (h : isVariableName s = true) :
    ∀ c ∈ s, c.isAlphanum = true := by
  simp only [isVariableName, Bool.and_eq_true] at h
  intro c hc
  rw [← List.takeWhile_append_dropWhile (p := Char.isAlpha) (l := s)] at hc
  rcases List.mem_append.mp hc with hc | hc
  · rw [Char.isAlphanum, Text.mem_takeWhile c hc, Bool.true_or]
  · rw [Char.isAlphanum, List.all_eq_true.mp h.2 c hc, Bool.or_true]

/-- A name of a variable is letters and digits, and begins with a letter. -/
theorem isVariableName_chars {s : List Char} (h : isVariableName s = true) :
    ∃ c rest, s = c :: rest ∧ c.isAlpha = true ∧ ∀ d ∈ rest, d.isAlphanum = true := by
  have all := isAlphanum_of_isVariableName h
  simp only [isVariableName, Bool.and_eq_true, Bool.not_eq_true', List.isEmpty_eq_false_iff] at h
  obtain ⟨⟨letters, -⟩, -⟩ := h
  cases s with
  | nil => exact absurd rfl letters
  | cons c rest =>
    refine ⟨c, rest, rfl, ?_, fun d hd => all d (List.mem_cons_of_mem c hd)⟩
    cases hc : c.isAlpha with
    | true => rfl
    | false =>
      rw [List.takeWhile_cons_of_neg (by simp [hc])] at letters
      exact absurd rfl letters

end Token

/-! ## Tokens in front of a text -/

/-- A token of the right shape is scanned as itself when no value runs into what follows. -/
theorem scanChars_append {t : Token} (hs : t.hasShape = true) {rest : List Char}
    (stop : t.kind.isValue = true → Text.Detached rest) :
    scanChars (t.text.toList ++ rest) = t :: scanChars rest := by
  cases hv : t.kind.isValue with
  | false =>
    obtain ⟨c, -, hc, cut⟩ := Token.exists_single hs hv
    obtain ⟨token, left⟩ := cut rest
    rw [hc, List.singleton_append, scanChars_cons, token, left]
    rfl
  | true =>
    obtain ⟨kind, text⟩ := t
    have detached := stop hv
    cases kind with
    | operator | openParen | closeParen | unrecognized => exact Bool.noConfusion hv
    | number =>
      obtain ⟨l, wf, ht⟩ := Token.exists_literal rfl hs
      obtain ⟨c, s, hl, -⟩ := wf.head?_chars
      simp only at ht
      rw [ht, String.toList_ofList, hl, List.cons_append, scanChars_cons,
        Piece.cut_number wf detached hl, ← hl]
      rfl
    | var =>
      have name : Token.isVariableName text.toList = true := hs
      obtain ⟨c, s, hcs, alpha, alnum⟩ := Token.isVariableName_chars name
      -- the word is taken whole: its characters go on, and the rest does not
      have bound : ∀ d ∈ rest.head?, d.isAlphanum = false := fun d hd => (detached d hd).1
      have token : Piece.token? ⟨.word, c :: s⟩ = some ⟨.var, text⟩ := by
        rw [← hcs, Piece.token?, String.ofList_toList]
        simp [Piece.kind?, name]
      simp only [hcs]
      rw [List.cons_append, scanChars_cons, Piece.cut_word alpha,
        Text.takeWhile_append alnum bound, Text.dropWhile_append alnum bound, token]
      rfl

theorem detached_of_not_isValue {t : Token} (hs : t.hasShape = true)
    (hv : t.kind.isValue = false) (rest : List Char) : Text.Detached (t.text.toList ++ rest) := by
  obtain ⟨c, single, hc, -⟩ := Token.exists_single hs hv
  rw [hc]
  exact Piece.detached_of_isSingle single rest

/-! ## Blanks -/

theorem Piece.isSingle_of_isBlank {c : Char} (h : Text.isBlank c = true) : isSingle c = false := by
  cases single : isSingle c with
  | false => rfl
  | true =>
    rcases cases_of_isSingle single with rfl | rfl | rfl | rfl | rfl | rfl
    all_goals exact absurd h (by decide)

theorem Text.detached_of_isBlank {c : Char} (h : isBlank c = true) (s : List Char) :
    Detached (c :: s) := by
  intro d hd
  obtain rfl : c = d := by simpa using hd
  refine ⟨isAlphanum_of_isBlank h, ?_⟩
  rintro rfl
  exact absurd h (by decide)

theorem Piece.cut_blank {c : Char} (h : Text.isBlank c = true) (s : List Char) :
    cut c s = (⟨.blank, c :: s.takeWhile Text.isBlank⟩, s.dropWhile Text.isBlank) := by
  obtain ⟨apart, point⟩ := Text.detached_of_isBlank h s c rfl
  obtain ⟨alpha, digit⟩ := Bool.or_eq_false_iff.mp apart
  rw [cut_of_not_isSingle (isSingle_of_isBlank h), Literal.read_cons_eq_none digit point, alpha,
    if_neg Bool.false_ne_true]
  exact if_pos h

/-- The blanks at the front of a text are one piece, which becomes no token. -/
theorem scanChars_dropWhile_isBlank (s : List Char) :
    scanChars (s.dropWhile Text.isBlank) = scanChars s := by
  cases s with
  | nil => rfl
  | cons c s =>
    by_cases h : Text.isBlank c = true
    · rw [List.dropWhile_cons_of_pos h, scanChars_cons, Piece.cut_blank h]
      rfl
    · rw [List.dropWhile_cons_of_neg h]

theorem scanChars_append_of_isBlank {gap : List Char} (h : ∀ c ∈ gap, Text.isBlank c = true)
    (rest : List Char) : scanChars (gap ++ rest) = scanChars rest := by
  rw [← scanChars_dropWhile_isBlank, List.dropWhile_append_of_pos h, scanChars_dropWhile_isBlank]

theorem Text.detached_append_of_isBlank {gap : List Char} (h : ∀ c ∈ gap, isBlank c = true)
    (ne_nil : gap ≠ []) (rest : List Char) : Detached (gap ++ rest) := by
  cases gap with
  | nil => exact absurd rfl ne_nil
  | cons c gap => exact detached_of_isBlank (h c List.mem_cons_self) (gap ++ rest)

/-! ## Printed tokens -/

/-- The text of tokens, each with the text behind it, and with a text in front of them all. -/
def printed (front : String) (spaced : List (Token × String)) : String :=
  front ++ String.join (spaced.map fun p => p.1.text ++ p.2)

/-- Tokens of the right shape with blanks behind them, and with one at least between two values. -/
structure WellSpaced (spaced : List (Token × String)) : Prop where
  shapes : ∀ p ∈ spaced, p.1.hasShape = true
  blanks : ∀ p ∈ spaced, ∀ c ∈ p.2.toList, Text.isBlank c = true
  apart : spaced.IsChain fun p q => p.1.kind.isValue = true → q.1.kind.isValue = true → p.2 ≠ ""

/-- The characters of printed tokens. -/
def printedChars (spaced : List (Token × String)) : List Char :=
  spaced.flatMap fun p => p.1.text.toList ++ p.2.toList

@[simp] theorem printedChars_nil : printedChars [] = [] := rfl

@[simp] theorem printedChars_cons (p : Token × String) (spaced : List (Token × String)) :
    printedChars (p :: spaced) = p.1.text.toList ++ (p.2.toList ++ printedChars spaced) := by
  rw [printedChars, List.flatMap_cons, List.append_assoc, ← printedChars]

@[simp] theorem printedChars_append (spaced spaced' : List (Token × String)) :
    printedChars (spaced ++ spaced') = printedChars spaced ++ printedChars spaced' :=
  List.flatMap_append

theorem toList_printed (front : String) (spaced : List (Token × String)) :
    (printed front spaced).toList = front.toList ++ printedChars spaced := by
  simp [printed, printedChars, String.toList_join, List.flatMap_map]

theorem WellSpaced.tail {p : Token × String} {spaced : List (Token × String)}
    (h : WellSpaced (p :: spaced)) : WellSpaced spaced :=
  ⟨fun q hq => h.shapes q (List.mem_cons_of_mem p hq),
    fun q hq => h.blanks q (List.mem_cons_of_mem p hq), (List.isChain_cons.mp h.apart).2⟩

/-- No value runs into what is printed behind it. -/
theorem WellSpaced.detached {p : Token × String} {spaced : List (Token × String)}
    (h : WellSpaced (p :: spaced)) (value : p.1.kind.isValue = true) :
    Text.Detached (p.2.toList ++ printedChars spaced) := by
  by_cases gap : p.2 = ""
  · rw [gap, String.toList_empty, List.nil_append]
    cases spaced with
    | nil => exact Text.detached_nil
    | cons q spaced =>
      -- without a blank, the next token is an operator or a parenthesis
      have single : q.1.kind.isValue = false := by
        rw [← Bool.not_eq_true]
        exact fun next => (List.isChain_cons.mp h.apart).1 q rfl value next gap
      rw [printedChars_cons]
      exact detached_of_not_isValue (h.tail.shapes q List.mem_cons_self) single _
  · exact Text.detached_append_of_isBlank (h.blanks p List.mem_cons_self) (by simpa using gap) _

theorem scanChars_printedChars {spaced : List (Token × String)} (h : WellSpaced spaced) :
    scanChars (printedChars spaced) = spaced.map Prod.fst := by
  induction spaced with
  | nil => exact scanChars_nil
  | cons p spaced ih =>
    have shape := h.shapes p List.mem_cons_self
    have blanks := h.blanks p List.mem_cons_self
    rw [printedChars_cons, scanChars_append shape h.detached, scanChars_append_of_isBlank blanks,
      ih h.tail, List.map_cons]

/-- Scanning gives printed tokens back, whatever blanks stand before, between and after them. -/
theorem scan_printed {front : String} {spaced : List (Token × String)}
    (lead : ∀ c ∈ front.toList, Text.isBlank c = true) (h : WellSpaced spaced) :
    scan (printed front spaced) = spaced.map Prod.fst := by
  rw [scan, toList_printed, scanChars_append_of_isBlank lead, scanChars_printedChars h]

/-- Blanks only where two values meet, and literals that could go on: a point without digits behind it,
and names that look like exponents. -/
theorem scan_printed_tight :
    scan "\u2003 1.\te5(.5)-2e+07 e1\u000B" =
      [⟨.number, "1."⟩, ⟨.var, "e5"⟩, ⟨.openParen, "("⟩, ⟨.number, ".5"⟩, ⟨.closeParen, ")"⟩,
        ⟨.operator, "-"⟩, ⟨.number, "2e+07"⟩, ⟨.var, "e1"⟩] := by
  have lead : ∀ c ∈ "\u2003 ".toList, Text.isBlank c = true :=
    List.all_eq_true.mp (by decide +kernel)
  have spaced : WellSpaced [(⟨.number, "1."⟩, "\t"), (⟨.var, "e5"⟩, ""), (⟨.openParen, "("⟩, ""),
      (⟨.number, ".5"⟩, ""), (⟨.closeParen, ")"⟩, ""), (⟨.operator, "-"⟩, ""),
      (⟨.number, "2e+07"⟩, " "), (⟨.var, "e1"⟩, "\u000B")] := by
    refine ⟨by decide +kernel, fun p hp => List.all_eq_true.mp ?_, by decide +kernel⟩
    revert p
    decide +kernel
  exact scan_printed lead spaced

/-- The texts of tokens, joined, are scanned as the tokens when no two values stand side by side. -/
theorem scanChars_flatMap {ts : List Token} (hs : ∀ t ∈ ts, t.hasShape = true)
    (apart : ts.IsChain fun a b => a.kind.isValue = true → b.kind.isValue = false) :
    scanChars (ts.flatMap fun t => t.text.toList) = ts := by
  have spaced : WellSpaced (ts.map fun t => (t, "")) := by
    refine ⟨?_, ?_, ?_⟩
    · exact List.forall_mem_map.mpr hs
    · exact List.forall_mem_map.mpr fun _ _ => nofun
    · refine (List.isChain_map _).mpr (apart.imp fun a b single ha hb => ?_)
      rw [single ha] at hb
      exact absurd hb Bool.false_ne_true
  have together := scanChars_printedChars spaced
  rw [printedChars, List.flatMap_map, List.map_map] at together
  simpa [Function.comp_def] using together

end Formulary
