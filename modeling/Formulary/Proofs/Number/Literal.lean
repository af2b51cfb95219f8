import Formulary.Number.Literal

/-!
# Which literals are read

`Literal.read` takes a literal from the front of a text. This file says which literals those are, and
that they are read back: what is read is well formed (`wellFormed_of_read`), and a well formed literal is
read from its own characters, whatever follows, provided that what follows does not go on with it
(`read_append`). Together they make `ofChars?` the inverse of `chars` (`ofChars?_eq_some_iff`).

What may follow is the same for literals and for names of variables, so it has a name of its own,
`Text.Detached`. It is more than a literal needs, which could stand a letter behind its exponent.
-/

set_option autoImplicit false

namespace Formulary

namespace Text

/-- No number and no name goes on into the text. -/
def Detached (s : List Char) : Prop :=
  ∀ c ∈ s.head?, c.isAlphanum = false ∧ c ≠ '.'

theorem detached_nil : Detached [] := by
  intro c hc
  exact absurd hc (by simp)

theorem Detached.isDigit {s : List Char} (h : Detached s) : ∀ c ∈ s.head?, c.isDigit = false := by
  intro c hc
  exact (Bool.or_eq_false_iff.mp (h c hc).1).2

/-! A run of characters is taken whole, and no further. -/

theorem takeWhile_append {p : Char → Bool} {s rest : List Char} (hs : ∀ c ∈ s, p c = true)
    (stop : ∀ c ∈ rest.head?, p c = false) : (s ++ rest).takeWhile p = s := by
  rw [List.takeWhile_append_of_pos hs]
  cases rest with
  | nil => simp
  | cons c rest => simp [stop c rfl]

theorem dropWhile_append {p : Char → Bool} {s rest : List Char} (hs : ∀ c ∈ s, p c = true)
    (stop : ∀ c ∈ rest.head?, p c = false) : (s ++ rest).dropWhile p = rest := by
  rw [List.dropWhile_append_of_pos hs]
  cases rest with
  | nil => rfl
  | cons c rest => simp [stop c rfl]

theorem mem_takeWhile {p : Char → Bool} {s : List Char} : ∀ c ∈ s.takeWhile p, p c = true := by
  intro c hc
  exact List.all_eq_true.mp List.all_takeWhile c hc

end Text

namespace Literal

/-- An exponent as it can be written. -/
structure Scale.WellFormed (e : Scale) : Prop where
  mark : isMark e.mark = true
  sign : ∀ c ∈ e.sign, isSign c = true
  digits : ∀ c ∈ e.digits, c.isDigit = true
  ne_nil : e.digits ≠ []

/-- A literal as it can be written: digits wherever digits are meant, and at least one before the
exponent. -/
structure WellFormed (l : Literal) : Prop where
  whole : ∀ c ∈ l.whole, c.isDigit = true
  fraction : ∀ f ∈ l.fraction, ∀ c ∈ f, c.isDigit = true
  ne_nil : l.whole ++ l.fraction.getD [] ≠ []
  scale : ∀ e ∈ l.scale, e.WellFormed

/-! ## Characters of a literal -/

theorem cases_of_isMark {c : Char} (h : isMark c = true) : c = 'e' ∨ c = 'E' := by
  simpa [isMark] using h

theorem cases_of_isSign {c : Char} (h : isSign c = true) : c = '+' ∨ c = '-' := by
  simpa [isSign] using h

theorem isDigit_of_isMark {c : Char} (h : isMark c = true) : c.isDigit = false := by
  rcases cases_of_isMark h with rfl | rfl
  all_goals decide

theorem isAlphanum_of_isMark {c : Char} (h : isMark c = true) : c.isAlphanum = true := by
  rcases cases_of_isMark h with rfl | rfl
  all_goals decide

theorem isSign_of_isDigit {c : Char} (h : c.isDigit = true) : isSign c = false := by
  cases hs : isSign c with
  | false => rfl
  | true =>
    rcases cases_of_isSign hs with rfl | rfl
    all_goals exact absurd h (by decide)

/-- The characters that literals are made of. -/
def isLiteralChar (c : Char) : Bool :=
  c.isDigit || c == '.' || isMark c || isSign c

/-- Where a character of a literal comes from. -/
theorem WellFormed.cases_of_mem_chars {l : Literal} (h : l.WellFormed) {c : Char}
    (hc : c ∈ l.chars) :
    c.isDigit = true ∨ c = '.' ∨ (∃ e ∈ l.scale, c = e.mark) ∨ isSign c = true := by
  obtain ⟨whole, fraction, scale⟩ := l
  rcases List.mem_append.mp hc with hc | hc
  · exact .inl (h.whole c hc)
  rcases List.mem_append.mp hc with hc | hc
  · cases fraction with
    | none => exact absurd hc List.not_mem_nil
    | some f =>
      rcases List.mem_cons.mp hc with rfl | hc
      · exact .inr (.inl rfl)
      · exact .inl (h.fraction f rfl c hc)
  · cases scale with
    | none => exact absurd hc List.not_mem_nil
    | some e =>
      have he := h.scale e rfl
      rcases List.mem_cons.mp hc with rfl | hc
      · exact .inr (.inr (.inl ⟨e, rfl, rfl⟩))
      rcases List.mem_append.mp hc with hc | hc
      · exact .inr (.inr (.inr (he.sign c (Option.mem_toList.mp hc))))
      · exact .inl (he.digits c hc)

theorem WellFormed.isLiteralChar {l : Literal} (h : l.WellFormed) :
    ∀ c ∈ l.chars, isLiteralChar c = true := by
  intro c hc
  rcases h.cases_of_mem_chars hc with hd | rfl | ⟨e, he, rfl⟩ | hs
  · simp [Literal.isLiteralChar, hd]
  · rfl
  · simp [Literal.isLiteralChar, (h.scale e he).mark]
  · simp [Literal.isLiteralChar, hs]

/-- A literal starts with a digit or with its point. -/
theorem WellFormed.head?_chars {l : Literal} (h : l.WellFormed) :
    ∃ c s, l.chars = c :: s ∧ (c.isDigit = true ∨ c = '.') := by
  obtain ⟨whole, fraction, scale⟩ := l
  cases whole with
  | cons c s => exact ⟨c, _, rfl, .inl (h.whole c List.mem_cons_self)⟩
  | nil =>
    cases fraction with
    | some f => exact ⟨'.', _, rfl, .inr rfl⟩
    | none => exact absurd rfl h.ne_nil

/-! ## Reading, by what ends the first digits -/

theorem read_point {s t : List Char} (h : s.dropWhile Char.isDigit = '.' :: t) :
    read s =
      if (s.takeWhile Char.isDigit).isEmpty && (t.takeWhile Char.isDigit).isEmpty then none
      else some (withScale (s.takeWhile Char.isDigit) (some (t.takeWhile Char.isDigit))
        (t.dropWhile Char.isDigit)) := by
  simp only [read, h]

theorem read_whole {s : List Char} (h : ∀ t, s.dropWhile Char.isDigit ≠ '.' :: t) :
    read s =
      if (s.takeWhile Char.isDigit).isEmpty then none
      else some (withScale (s.takeWhile Char.isDigit) none (s.dropWhile Char.isDigit)) := by
  rw [read]
  split
  · next t ht => exact absurd ht (h t)
  · rfl

theorem read_cons_eq_none {c : Char} (digit : c.isDigit = false) (point : c ≠ '.')
    (s : List Char) : read (c :: s) = none := by
  have stop : ¬ c.isDigit = true := by simp [digit]
  rw [read_whole, List.takeWhile_cons_of_neg stop]
  · rfl
  · intro t ht
    rw [List.dropWhile_cons_of_neg stop] at ht
    exact point (List.cons.inj ht).1

/-! ## A well formed literal is read -/

/-- An exponent is read with all digits behind it. -/
theorem Scale.read_chars_append {e : Scale} (h : e.WellFormed) (t : List Char) :
    Scale.read (e.chars ++ t) =
      some (⟨e.mark, e.sign, e.digits ++ t.takeWhile Char.isDigit⟩, t.dropWhile Char.isDigit) := by
  obtain ⟨mark, sign, digits⟩ := e
  have take : (digits ++ t).takeWhile Char.isDigit = digits ++ t.takeWhile Char.isDigit :=
    List.takeWhile_append_of_pos h.digits
  have drop : (digits ++ t).dropWhile Char.isDigit = t.dropWhile Char.isDigit :=
    List.dropWhile_append_of_pos h.digits
  have hd : digits ≠ [] := h.ne_nil
  have hm : isMark mark = true := h.mark
  cases sign with
  | some c =>
    have hc : isSign c = true := h.sign c rfl
    simp [Scale.chars, Scale.read, Scale.finish, hm, hc, take, drop, hd]
  | none =>
    cases digits with
    | nil => exact absurd rfl hd
    | cons c digits =>
      have hc : isSign c = false := isSign_of_isDigit (h.digits c List.mem_cons_self)
      rw [List.cons_append] at take drop
      simp [Scale.chars, Scale.read, Scale.finish, hm, hc, take, drop]

theorem Scale.read_append {e : Scale} (h : e.WellFormed) {rest : List Char}
    (stop : Text.Detached rest) : Scale.read (e.chars ++ rest) = some (e, rest) := by
  -- a text that is detached has no digits in front
  have take := Text.takeWhile_append (List.forall_mem_nil _) stop.isDigit
  have drop := Text.dropWhile_append (List.forall_mem_nil _) stop.isDigit
  rw [List.nil_append] at take drop
  rw [Scale.read_chars_append h, take, drop, List.append_nil]

theorem Scale.read_detached {rest : List Char} (stop : Text.Detached rest) :
    Scale.read rest = none := by
  unfold Scale.read
  split
  · next m c s =>
    have hm : isMark m = false := by
      cases hm : isMark m with
      | false => rfl
      | true => exact absurd (isAlphanum_of_isMark hm) (by simp [(stop m rfl).1])
    simp [hm]
  · rfl

theorem withScale_append (whole : List Char) (fraction : Option (List Char))
    {scale : Option Scale} (h : ∀ e ∈ scale, e.WellFormed) {rest : List Char}
    (stop : Text.Detached rest) :
    withScale whole fraction (scale.elim [] Scale.chars ++ rest) =
      (⟨whole, fraction, scale⟩, rest) := by
  cases scale with
  | none => simp [withScale, Scale.read_detached stop]
  | some e => simp [withScale, Scale.read_append (h e rfl) stop]

/-- Behind the digits comes neither a digit nor a point, if it is an exponent or nothing of the
literal. -/
theorem head?_scale_append {scale : Option Scale} (h : ∀ e ∈ scale, e.WellFormed)
    {rest : List Char} (stop : Text.Detached rest) :
    ∀ c ∈ (scale.elim [] Scale.chars ++ rest).head?, c.isDigit = false ∧ c ≠ '.' := by
  intro c hc
  cases scale with
  | none => exact ⟨stop.isDigit c hc, (stop c hc).2⟩
  | some e =>
    have hm := (h e rfl).mark
    obtain rfl : e.mark = c := by simpa [Scale.chars] using hc
    refine ⟨isDigit_of_isMark hm, ?_⟩
    intro hp
    rw [hp] at hm
    exact absurd hm (by decide)

theorem read_append {l : Literal} (h : l.WellFormed) {rest : List Char}
    (stop : Text.Detached rest) : read (l.chars ++ rest) = some (l, rest) := by
  obtain ⟨whole, fraction, scale⟩ := l
  have ends := head?_scale_append h.scale stop
  have scaled := fun fraction => withScale_append whole fraction h.scale stop
  have hne := h.ne_nil
  cases fraction with
  | none =>
    have chars : chars ⟨whole, none, scale⟩ ++ rest = whole ++ (scale.elim [] Scale.chars ++ rest) := by
      simp [Literal.chars, List.append_assoc]
    -- without a point the digits end where the exponent or the rest begins
    have take := Text.takeWhile_append h.whole fun c hc => (ends c hc).1
    have drop := Text.dropWhile_append h.whole fun c hc => (ends c hc).1
    have hw : whole ≠ [] := by simpa using hne
    have no_point : ∀ t, (whole ++ (scale.elim [] Scale.chars ++ rest)).dropWhile Char.isDigit ≠
        '.' :: t := by
      intro t ht
      rw [← drop, ht] at ends
      exact absurd rfl (ends '.' rfl).2
    rw [chars, read_whole no_point, take, drop]
    simp [hw, scaled]
  | some f =>
    have chars : chars ⟨whole, some f, scale⟩ ++ rest =
        whole ++ '.' :: (f ++ (scale.elim [] Scale.chars ++ rest)) := by
      simp [Literal.chars, List.append_assoc]
    -- with one there are two runs of digits, the first ended by the point
    have point : ∀ c ∈ ('.' :: (f ++ (scale.elim [] Scale.chars ++ rest))).head?,
        c.isDigit = false := by
      intro c hc
      obtain rfl : '.' = c := by simpa using hc
      decide
    have take := Text.takeWhile_append h.whole point
    have drop := Text.dropWhile_append h.whole point
    have takef := Text.takeWhile_append (h.fraction f rfl) fun c hc => (ends c hc).1
    have dropf := Text.dropWhile_append (h.fraction f rfl) fun c hc => (ends c hc).1
    have some_digit : (whole.isEmpty && f.isEmpty) = false := by
      cases whole with
      | cons c s => rfl
      | nil =>
        cases f with
        | cons c s => rfl
        | nil => exact absurd rfl hne
    rw [chars, read_point drop, take, takef, dropf, some_digit, scaled]
    rfl

/-! ## What is read is well formed -/

theorem Scale.wellFormed_of_finish {mark : Char} {sign : Option Char} {s : List Char} {e : Scale}
    {rest : List Char} (hm : isMark mark = true) (hs : ∀ c ∈ sign, isSign c = true)
    (h : Scale.finish mark sign s = some (e, rest)) : e.WellFormed := by
  unfold Scale.finish at h
  split at h
  · exact absurd h (by simp)
  · next hd =>
    simp only [Option.some.injEq, Prod.mk.injEq] at h
    obtain ⟨rfl, rfl⟩ := h
    exact ⟨hm, hs, Text.mem_takeWhile, by simpa using hd⟩

theorem Scale.wellFormed_of_read {s : List Char} {e : Scale} {rest : List Char}
    (h : Scale.read s = some (e, rest)) : e.WellFormed := by
  unfold Scale.read at h
  split at h
  · split at h
    · next hm =>
      split at h
      · next hs =>
        refine Scale.wellFormed_of_finish hm ?_ h
        intro c hc
        rwa [← Option.mem_some.mp hc]
      · exact Scale.wellFormed_of_finish hm (by simp) h
    · exact absurd h (by simp)
  · exact absurd h (by simp)

theorem wellFormed_withScale {whole : List Char} {fraction : Option (List Char)} (s : List Char)
    (hw : ∀ c ∈ whole, c.isDigit = true) (hf : ∀ f ∈ fraction, ∀ c ∈ f, c.isDigit = true)
    (hne : whole ++ fraction.getD [] ≠ []) : (withScale whole fraction s).1.WellFormed := by
  unfold withScale
  split
  · next e rest he =>
    refine ⟨hw, hf, hne, ?_⟩
    intro e' he'
    obtain rfl : e = e' := by simpa using he'
    exact Scale.wellFormed_of_read he
  · exact ⟨hw, hf, hne, by simp⟩

theorem wellFormed_of_read {s : List Char} {l : Literal} {rest : List Char}
    (h : read s = some (l, rest)) : l.WellFormed := by
  have whole : ∀ c ∈ s.takeWhile Char.isDigit, c.isDigit = true := Text.mem_takeWhile
  by_cases point : ∃ t, s.dropWhile Char.isDigit = '.' :: t
  · obtain ⟨t, ht⟩ := point
    rw [read_point ht] at h
    split at h
    · exact absurd h (by simp)
    · next hne =>
      have fraction : ∀ f ∈ some (t.takeWhile Char.isDigit), ∀ c ∈ f, c.isDigit = true := by
        simpa using Text.mem_takeWhile
      have made := wellFormed_withScale (t.dropWhile Char.isDigit) whole fraction
        (by simpa using hne)
      rwa [Option.some.inj h] at made
  · rw [read_whole fun t ht => point ⟨t, ht⟩] at h
    split at h
    · exact absurd h (by simp)
    · next hne =>
      have fraction : ∀ f ∈ (none : Option (List Char)), ∀ c ∈ f, c.isDigit = true := nofun
      have made := wellFormed_withScale (s.dropWhile Char.isDigit) whole fraction
        (by simpa using hne)
      rwa [Option.some.inj h] at made

/-- A text writes at most one literal, and it is the one with these characters. -/
theorem ofChars?_eq_some_iff {s : List Char} {l : Literal} :
    ofChars? s = some l ↔ l.WellFormed ∧ s = l.chars := by
  constructor
  · intro h
    unfold ofChars? at h
    split at h
    · next l' hr =>
      obtain rfl : l' = l := by simpa using h
      refine ⟨wellFormed_of_read hr, ?_⟩
      rw [← chars_append_of_read hr, List.append_nil]
    · exact absurd h (by simp)
  · rintro ⟨h, rfl⟩
    have hr := read_append h Text.detached_nil
    rw [List.append_nil] at hr
    rw [ofChars?, hr]

theorem WellFormed.eq_of_chars_eq {l l' : Literal} (h : l.WellFormed) (h' : l'.WellFormed)
    (same : l.chars = l'.chars) : l = l' := by
  have read := ofChars?_eq_some_iff.mpr ⟨h, rfl⟩
  have read' := ofChars?_eq_some_iff.mpr ⟨h', same⟩
  exact Option.some.inj (read.symm.trans read')

end Literal

end Formulary
