import Formulary.Proofs.Grammar.Pass
import Formulary.Proofs.Number.Closest
import Formulary.Proofs.Number.Value

/-!
# Numbers that are too large

The first rule about a token asks nothing of the place where it stands: a token is invalid exactly when it
is not sound (`Place.fault?_eq_invalidToken_iff`). For a token with the shape of a number this is a
question about the exact value of its text, and one comparison answers it (`Denotes.isSound_iff`): from
`2¹⁰²⁴ - 2⁹⁷⁰` on, the middle between the largest double and the one that would come next, the text rounds
to infinity.
-/

set_option autoImplicit false

namespace Formulary

/-- No rule but the first calls a token invalid. -/
theorem Grammar.Place.fault?_eq_invalidToken_iff (p : Place) (t : Token) :
    p.fault? t = some .invalidToken ↔ t.isSound = false := by
  unfold fault?
  by_cases sound : t.isSound = true
  · simp only [sound, Bool.not_true, Bool.false_eq_true, if_false]
    -- each of the other rules names a fault of its own
    repeat' split
    all_goals simp
  · simp [sound]

namespace Literal

variable {text : String} {q : ℚ}

theorem Denotes.isSound_iff (h : Denotes text q) :
    Token.isSound ⟨.number, text⟩ = true ↔ q < 2 ^ 1024 - 2 ^ 970 := by
  obtain ⟨v, read, -, near⟩ := h.exists_read
  have shape : Token.hasShape ⟨.number, text⟩ = true := exists_denotes_iff.mp ⟨q, h⟩
  rw [Token.isSound_iff, ← near.lt_infinite_iff, ← v.isFinite_iff]
  constructor
  · rintro ⟨-, found⟩
    obtain ⟨v', read', finite'⟩ := found rfl
    rwa [Except.ok.inj (read.symm.trans read')]
  · intro finite'
    exact ⟨shape, fun _ => ⟨v, read, finite'⟩⟩

/-- A text with the shape of a number is read as the number that is closest to its exact value, of two that
are equally close the one with the even significand. It becomes zero from half of the smallest number
downwards, a subnormal number below the middle to the normal ones, and is finite below the middle between
the largest number and the one that would come next. From there on a token with the text is invalid, wherever
it stands, and nowhere before. -/
theorem closest_or_overflow (h : Denotes text q) :
    (∃ v : Binary64, Binary64.read text = .ok v ∧ Token.canonical ⟨.number, text⟩ = v.render ∧
      v.negative = false ∧ (∀ n, v.magnitude = n ↔ Binary64.Closest q n) ∧
      (v.magnitude = 0 ↔ q ≤ 1 / 2 ^ 1075) ∧
      (v.magnitude < 2 ^ 52 ↔ q < 1 / 2 ^ 1022 - 1 / 2 ^ 1075) ∧
      (v.isFinite = true ↔ q < 2 ^ 1024 - 2 ^ 970)) ∧
    ∀ p : Grammar.Place,
      p.fault? ⟨.number, text⟩ = some .invalidToken ↔ 2 ^ 1024 - 2 ^ 970 ≤ q := by
  constructor
  · obtain ⟨v, read, plus, near⟩ := h.exists_read
    have canonical : Token.canonical ⟨.number, text⟩ = v.render := by
      show Binary64.normalize text = v.render
      rw [Binary64.normalize, read]
    have only : ∀ n, v.magnitude = n ↔ Binary64.Closest q n := by
      intro n
      rw [← Binary64.isNearest_iff_closest]
      constructor
      · intro same
        rwa [← same]
      · intro near'
        exact near.unique near'
    exact ⟨v, read, canonical, plus, only, near.eq_zero_iff, near.lt_normal_iff,
      v.isFinite_iff.trans near.lt_infinite_iff⟩
  · intro p
    rw [p.fault?_eq_invalidToken_iff, ← Bool.not_eq_true, h.isSound_iff, not_lt]

/-- `2⁵³ + 1` is as close to `2⁵³` as to `2⁵³ + 2`, and the significand of `2⁵³` is the even one. -/
theorem closest_or_overflow_tie :
    Denotes "9007199254740.993e3" (2 ^ 53 + 1) ∧
      ∃ v : Binary64, Binary64.read "9007199254740.993e3" = .ok v ∧
        Token.canonical ⟨.number, "9007199254740.993e3"⟩ = v.render ∧
        v.magnitude = 0x4340000000000000 ∧
        Binary64.Closest (2 ^ 53 + 1) 0x4340000000000000 ∧
        ∀ p : Grammar.Place, p.fault? ⟨.number, "9007199254740.993e3"⟩ ≠ some .invalidToken := by
  have exact : Denotes "9007199254740.993e3" (2 ^ 53 + 1) := by
    have value : Decimal.toRat ⟨9007199254740993, 0⟩ = 2 ^ 53 + 1 := by norm_num [Decimal.toRat]
    rw [← value]
    exact denotes_of_value (by decide +kernel)
  have known : (Binary64.read "9007199254740.993e3").map (fun v => (v.magnitude, v.isFinite)) =
      .ok (0x4340000000000000, true) := by
    decide +kernel
  obtain ⟨⟨v, read, canonical, -, only, -, -, finite⟩, invalid⟩ := closest_or_overflow exact
  rw [read] at known
  obtain ⟨magnitude, bounded⟩ := Prod.mk.inj (Except.ok.inj known)
  refine ⟨exact, v, read, canonical, magnitude, (only _).mp magnitude, fun p hp => ?_⟩
  exact absurd ((invalid p).mp hp) (not_le_of_gt (finite.mp bounded))

end Literal

end Formulary
