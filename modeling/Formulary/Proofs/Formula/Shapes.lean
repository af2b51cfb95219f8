import Formulary.Proofs.Formula.Failure
import Formulary.Proofs.Token.Segments

/-!
# Shapes of tokens and scanning

Two functions decide what the text of a token may be: scanning, which cuts it off in front of whatever
follows, and `Token.hasShape`, which looks at the text alone. They agree. A piece that is the longest in
front of some text is so in front of nothing (`Piece.Longest.alone`), and therefore a token scanned anywhere
is scanned again from its own text, be it recognized or not (`scan_text_of_mem_scan`). For a token of a
recognized kind, to be scanned from its own text and to have its shape is one thing (`hasShape_iff_scan`).

So for a text the first rule of the grammar has less to say than for tokens from elsewhere: a token is
invalid because it was not recognized, or because it is a number that overflows.
-/

set_option autoImplicit false

namespace Formulary

namespace Piece

variable {p : Piece} {s : List Char}

/-- What is longest in front of a text is longest by itself. -/
theorem Longest.alone (h : Longest p s) : Longest p p.chars where
  fits := h.fits
  front := List.prefix_refl _
  longest := fun form w fits front => h.longest form w fits (front.trans h.front)
  earliest := h.earliest

/-- A piece is cut off whole from its own text. -/
theorem scanChars_of_longest (h : Longest p s) : scanChars p.chars = p.token?.toList := by
  obtain ⟨c, v, chars⟩ := List.exists_cons_of_ne_nil h.fits.ne_nil
  have alone := h.alone
  have whole := cut_append c v
  rw [chars] at alone
  have same := alone.unique (longest_cut c v)
  rw [← same, chars, List.append_right_eq_self] at whole
  rw [chars, scanChars_cons, ← same, whole, scanChars_nil, List.append_nil]

/-- What becomes a recognized token has the shape of its kind. -/
theorem hasShape_of_fits {t : Token} (fits : p.form.Fits p.chars) (token : p.token? = some t)
    (known : t.kind ≠ .unrecognized) : t.hasShape = true := by
  obtain ⟨form, chars⟩ := p
  cases form with
  | openParen | closeParen =>
    obtain rfl := Option.some.inj token
    obtain rfl : chars = [_] := fits
    rfl
  | operator =>
    obtain rfl := Option.some.inj token
    obtain ⟨c, rfl, op⟩ := fits
    show Token.isOperatorText (String.ofList [c]).toList = true
    rw [String.toList_ofList]
    exact op
  | word =>
    obtain rfl := Option.some.inj token
    by_cases name : Token.isVariableName chars = true
    · simp [name, Token.hasShape]
    · simp [name] at known
  | number =>
    obtain rfl := Option.some.inj token
    obtain ⟨l, rfl, wf⟩ := fits
    have literal := Literal.ofChars?_eq_some_iff.mpr ⟨wf, rfl⟩
    simp [Token.hasShape, literal]
  | blank => exact absurd token (by simp [token?, kind?])
  | other =>
    obtain rfl := Option.some.inj token
    exact absurd rfl known

end Piece

/-! ## Scanned once, scanned again -/

variable {t : Token} {text : String}

theorem scan_text_of_mem_scan (ht : t ∈ scan text) : scan t.text = [t] := by
  obtain ⟨c, v, token⟩ := exists_cut_of_mem_scanChars ht
  have again := Piece.scanChars_of_longest (Piece.longest_cut c v)
  rw [token] at again
  rw [Piece.token?, Option.map_eq_some_iff] at token
  obtain ⟨k, -, rfl⟩ := token
  rw [scan, String.toList_ofList, again, Option.toList_some]

theorem hasShape_of_mem_scan (ht : t ∈ scan text) (known : t.kind ≠ .unrecognized) :
    t.hasShape = true := by
  obtain ⟨c, v, token⟩ := exists_cut_of_mem_scanChars ht
  exact Piece.hasShape_of_fits (Piece.fits_cut c v) token known

theorem scan_text_of_hasShape (shape : t.hasShape = true) : scan t.text = [t] := by
  have alone := scanChars_append shape fun _ => Text.detached_nil
  rwa [List.append_nil, scanChars_nil] at alone

theorem hasShape_iff_scan (known : t.kind ≠ .unrecognized) :
    t.hasShape = true ↔ scan t.text = [t] := by
  constructor
  · exact scan_text_of_hasShape
  · intro alone
    have own : t ∈ scan t.text := by
      rw [alone]
      exact List.mem_singleton_self t
    exact hasShape_of_mem_scan own known

/-! ## Invalid tokens -/

/-- A number of the right shape is too large only by being read as infinity. -/
theorem Token.Overflows.read_eq (h : t.Overflows) (shape : t.hasShape = true) :
    Binary64.read t.text = .ok (Binary64.infinity false) := by
  obtain ⟨number, infinite⟩ := h
  obtain ⟨l, wf, text⟩ := exists_literal number shape
  have read := Binary64.read_chars wf
  rw [← text] at read
  rw [read] at infinite ⊢
  have large : ¬ l.value.nearest < Binary64.infinite := of_decide_eq_false (Except.ok.inj infinite)
  have magnitude := Nat.le_antisymm l.value.nearest_le (Nat.le_of_not_lt large)
  simp [Decimal.toBinary64, Binary64.infinity, magnitude]

/-- A token of a recognized kind has the shape of the kind exactly when its text is scanned as the token and
nothing else, and every token of a text is scanned again from its own text. In a text a token is therefore
called invalid only if it was not recognized, or is a number that is read as infinity. -/
theorem shapes_scanned :
    (∀ t : Token, t.kind ≠ .unrecognized → (t.hasShape = true ↔ scan t.text = [t])) ∧
    (∀ text : String, ∀ t ∈ scan text, scan t.text = [t]) ∧
    ∀ (warn : Bool) (text : String) (r : Rejection),
      Formula.parse warn text = .error (.rejected r) → r.fault = .invalidToken →
      ∃ (p : Nat) (t : Token), (scan text)[p]? = some t ∧ r.token = some t ∧
        r.position = some (p : Int) ∧
        (t.kind = .unrecognized ∨
          (t.kind = .number ∧ t.hasShape = true ∧
            Binary64.read t.text = .ok (Binary64.infinity false))) := by
  refine ⟨fun t => hasShape_iff_scan, fun text t => scan_text_of_mem_scan, ?_⟩
  intro warn text r failed invalid
  obtain ⟨r', same, rejected⟩ := Formula.parse_eq_error_iff.mp failed
  obtain rfl : r = r' := Error.rejected.inj same
  obtain ⟨p, t, token, told, position, unsound⟩ := Grammar.exists_unsound rejected invalid
  refine ⟨p, t, token, told, position, ?_⟩
  by_cases known : t.kind = .unrecognized
  · exact .inl known
  · have shape := hasShape_of_mem_scan (List.mem_of_getElem? token) known
    rcases unsound with misshapen | overflows
    · exact absurd (misshapen.symm.trans shape) Bool.false_ne_true
    · exact .inr ⟨overflows.1, shape, overflows.read_eq shape⟩

/-- A literal that is too large. Its shape is right, so it is scanned again and read as infinity. -/
theorem shapes_scanned_overflow :
    Formula.parse true "x1+1e999" =
        .error (.rejected ⟨.invalidToken, some ⟨.number, "1e999"⟩, some 2⟩) ∧
      scan "1e999" = [⟨.number, "1e999"⟩] ∧ Token.hasShape ⟨.number, "1e999"⟩ = true ∧
      Binary64.read "1e999" = .ok (Binary64.infinity false) := by
  have rejected : Formula.parse true "x1+1e999" =
      .error (.rejected ⟨.invalidToken, some ⟨.number, "1e999"⟩, some 2⟩) :=
    Formula.parse_eq_error_iff.mpr ⟨_, rfl, by decide +kernel⟩
  obtain ⟨agree, again, invalid⟩ := shapes_scanned
  obtain ⟨p, t, token, told, -, cause⟩ := invalid true "x1+1e999" _ rejected rfl
  obtain rfl := Option.some.inj told
  have alone := again "x1+1e999" _ (List.mem_of_getElem? token)
  rcases cause with unknown | ⟨-, -, infinite⟩
  · exact absurd unknown (by decide)
  · exact ⟨rejected, alone, (agree _ (by decide)).mpr alone, infinite⟩

end Formulary
