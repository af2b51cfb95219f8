import Formulary.Proofs.Token.Canonical

/-!
# Numbers are read as they were written

Rendering a finite double and reading the text again gives the same 64 bits. The text is a literal, or a
minus and a literal, and the literal spells the magnitude (`Binary64.exists_spelling`), so the sign is
the only thing that is left to follow: zero keeps it, like any other number.

Without a sign the text is a token of a formula, and the scanner takes it whole.
-/

set_option autoImplicit false

namespace Formulary

namespace Binary64

/-! ## Words -/

theorem toNat_eq_add_mod (w : UInt64) :
    (if (ofBits w).negative then Nat.pow 2 63 else 0) + (ofBits w).magnitude = w.toNat := by
  have bound : w.toNat < 2 ^ 64 := w.toNat_lt
  have high : (ofBits w).negative = decide (2 ^ 63 ≤ w.toNat) := rfl
  have low : (ofBits w).magnitude = w.toNat % 2 ^ 63 := rfl
  rw [high, low, natPow_eq]
  by_cases sign : 2 ^ 63 ≤ w.toNat
  · rw [if_pos (decide_eq_true sign)]
    omega
  · rw [if_neg (by simpa using sign)]
    omega

/-- Every word stores a number, and no two words the same one. -/
theorem toBits_ofBits (w : UInt64) : (ofBits w).toBits = w := by
  rw [toBits, toNat_eq_add_mod, UInt64.ofNat_toNat]

/-! ## Signed numbers -/

theorem toBinary64_negative {d : Decimal} {v : Binary64} (h : d.nearest = v.magnitude) :
    d.toBinary64 v.negative = v := by
  obtain ⟨negative, magnitude, bound⟩ := v
  obtain rfl : d.nearest = magnitude := h
  rfl

theorem read_finiteText (layout : Layout) {v : Binary64} (h : v.isFinite = true) :
    read (String.ofList (v.finiteText layout)) = .ok v := by
  obtain ⟨l, hl, spells⟩ := exists_spelling layout (of_decide_eq_true h)
  have whole := toBinary64_negative spells.nearest
  cases sign : v.negative with
  | false =>
    rw [finiteText, sign, if_neg Bool.false_ne_true, ← hl, read_chars spells.wellFormed, ← sign,
      whole]
  | true =>
    rw [finiteText, sign, if_pos rfl, ← hl, read_minus_chars spells.wellFormed, ← sign, whole]

/-- The text of a number without a sign is scanned as one number. -/
theorem scan_finiteText {v : Binary64} (h : v.isFinite = true) (plus : v.negative = false) :
    Token.hasShape ⟨.number, String.ofList (v.finiteText .canonical)⟩ = true ∧
      scan (String.ofList (v.finiteText .canonical)) =
        [⟨.number, String.ofList (v.finiteText .canonical)⟩] := by
  have text : v.finiteText .canonical = magnitudeText .canonical v.magnitude := by
    rw [finiteText, plus, if_neg Bool.false_ne_true]
  have sound := (Token.normal_number (of_decide_eq_true h)).sound
  have shape := ((Token.isSound_iff _).mp sound).1
  rw [← text] at shape
  have whole := scanChars_append shape fun _ => Text.detached_nil
  rw [List.append_nil, scanChars_nil] at whole
  exact ⟨shape, whole⟩

/-! ## Writing and reading -/

/-- Every finite number is written, and what was written reads back to the last bit. If it has no sign, it
is one number token, with the shape of one and a finite value. -/
theorem read_render (w : UInt64) (h : (ofBits w).isFinite = true) :
    ∃ text, (ofBits w).render = .ok text ∧ (read text).map toBits = .ok w ∧
      ((ofBits w).negative = false →
        scan text = [⟨.number, text⟩] ∧ Token.hasShape ⟨.number, text⟩ = true ∧
          (read text).map isFinite = .ok true) := by
  refine ⟨String.ofList ((ofBits w).finiteText .canonical), if_pos h, ?_, ?_⟩
  · rw [read_finiteText .canonical h, Except.map, toBits_ofBits]
  · intro plus
    obtain ⟨shape, whole⟩ := scan_finiteText h plus
    refine ⟨whole, shape, ?_⟩
    rw [read_finiteText .canonical h, Except.map, h]

/-- A power of two, `2⁵³`: the number below it is twice as near as the one above. -/
theorem read_render_power :
    (ofBits 0x4340000000000000).isFinite = true ∧
      ∃ text, (ofBits 0x4340000000000000).render = .ok text ∧
        (read text).map toBits = .ok 0x4340000000000000 ∧
        ((ofBits 0x4340000000000000).negative = false →
          scan text = [⟨.number, text⟩] ∧ Token.hasShape ⟨.number, text⟩ = true ∧
            (read text).map isFinite = .ok true) := by
  have finite : (ofBits 0x4340000000000000).isFinite = true := by decide +kernel
  exact ⟨finite, read_render 0x4340000000000000 finite⟩

end Binary64

end Formulary
