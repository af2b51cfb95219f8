import Formulary.Proofs.Formula.Failure
import Formulary.Proofs.Number.Significant
import Formulary.Session.Run

/-!
# Warnings, one for each overlong number

A number is overlong when its value cannot be written in seventeen digits, however it is spelled
(`Token.Overlong`). The digits that are counted on its text are too many in just this case
(`Token.overlong_iff`), so that checking the number warns about it exactly then, and shows its canonical
text (`Token.checkPrecision_eq`).

A formula is therefore warned about once for each overlong number, in the order of its tokens
(`Formula.warned`), unless the option has been set to a value that is off (`Options.Off`); and nothing else
gives a warning.
-/

set_option autoImplicit false

namespace Formulary

open Literal (Denotes)

namespace Token

/-! ## Overlong numbers -/

/-- The token is a number that no decimal of seventeen digits is equal to. -/
def Overlong (t : Token) : Prop :=
  t.kind = .number ∧ ∃ q, Denotes t.text q ∧ ∀ d : Decimal, d.toRat = q → 10 ^ 17 ≤ d.coefficient

theorem overlong_iff (t : Token) :
    t.Overlong ↔ t.kind = .number ∧ t.hasShape = true ∧ 17 < significantDigits t.text.toList := by
  obtain ⟨kind, text⟩ := t
  apply and_congr_right
  intro number
  subst number
  rw [← Literal.exists_denotes_iff, ← exists_and_right]
  apply exists_congr
  intro q
  apply and_congr_right
  intro exact
  rw [← Nat.not_le, exact.significantDigits_le_iff (by decide)]
  simp only [not_exists, not_and', Nat.not_lt]

instance (t : Token) : Decidable t.Overlong :=
  decidable_of_iff _ t.overlong_iff.symm

/-- What a check says of a number with a canonical text. -/
theorem checkPrecision_eq {t : Token} {text : String} (number : t.kind = .number)
    (shape : t.hasShape = true) (written : t.canonical = .ok text) :
    checkPrecision true t.text = .ok (if t.Overlong then [⟨t.text, text⟩] else []) := by
  have long : t.Overlong ↔ Binary64.maxDigits < significantDigits t.text.toList := by
    simp only [overlong_iff, number, shape, true_and, Binary64.maxDigits]
  rw [checkPrecision, ← canonical_of_number number, written]
  simp only [long, Bool.true_and, decide_eq_true_eq]
  split
  · rfl
  · rfl

end Token

/-! ## The warnings about tokens -/

theorem precisionWarnings_cons_number {warn : Bool} {t : Token} {ts : List Token}
    {own ws : List Warning} (number : t.kind = .number) (first : checkPrecision warn t.text = .ok own)
    (rest : precisionWarnings warn ts = .ok ws) :
    precisionWarnings warn (t :: ts) = .ok (own ++ ws) := by
  rw [precisionWarnings] at rest ⊢
  rw [List.filter_cons_of_pos (by simp [number]), List.mapM_cons, first]
  cases hs : (ts.filter (·.kind == .number)).mapM fun t => checkPrecision warn t.text with
  | error e =>
    rw [hs] at rest
    contradiction
  | ok each =>
    rw [hs] at rest
    obtain rfl := Except.ok.inj rest
    rfl

theorem precisionWarnings_cons_other {warn : Bool} {t : Token} {ts : List Token}
    (other : t.kind ≠ .number) : precisionWarnings warn (t :: ts) = precisionWarnings warn ts := by
  rw [precisionWarnings, List.filter_cons_of_neg (by simp [other]), precisionWarnings]

/-- One warning for each overlong token, with the text in its place. -/
def warnings (ts : List Token) (texts : List String) : List Warning :=
  ((ts.zip texts).filter fun p => p.1.Overlong).map fun p => ⟨p.1.text, p.2⟩

theorem warnings_cons (t : Token) (ts : List Token) (text : String) (texts : List String) :
    warnings (t :: ts) (text :: texts) =
      (if t.Overlong then [⟨t.text, text⟩] else []) ++ warnings ts texts := by
  unfold warnings
  split
  · next long => simp [long]
  · next short => simp [short]

theorem precisionWarnings_eq_warnings {ts : List Token} {texts : List String}
    (written : List.Forall₂ (fun t text => t.canonical = .ok text) ts texts)
    (shapes : ∀ t ∈ ts, t.hasShape = true) : precisionWarnings true ts = .ok (warnings ts texts) := by
  induction written with
  | nil => rfl
  | @cons t text ts texts written _ ih =>
    obtain ⟨shape, shapes⟩ := List.forall_mem_cons.mp shapes
    rw [warnings_cons]
    by_cases number : t.kind = .number
    · exact precisionWarnings_cons_number number (Token.checkPrecision_eq number shape written)
        (ih shapes)
    · have short : ¬ t.Overlong := fun long => number long.1
      rw [precisionWarnings_cons_other number, if_neg short, List.nil_append]
      exact ih shapes

theorem precisionWarnings_off (ts : List Token) : precisionWarnings false ts = .ok [] := by
  apply precisionWarnings_eq_nil
  intro t _ _
  rfl

namespace Formula

/-- What there is to be warned about in a formula. -/
def warned (f : Formula) : List Warning :=
  warnings f.tokens f.texts

theorem precisionWarnings_tokens (f : Formula) (warn : Bool) :
    precisionWarnings warn f.tokens = .ok (if warn then f.warned else []) := by
  cases warn with
  | false => exact precisionWarnings_off f.tokens
  | true =>
    apply precisionWarnings_eq_warnings (mapM_eq_ok_iff.mp f.texts_eq)
    intro t ht
    exact Token.hasShape_of_isSound (f.isSound_of_mem t ht)

theorem exists_parse_of_accepted {text : String} (warn : Bool)
    (accepted : Grammar.rejection? (scan text) = none) :
    ∃ f : Formula, f.tokens = scan text ∧ parse warn text = .ok (f, if warn then f.warned else []) := by
  obtain ⟨f, ws, h⟩ : ∃ f ws, parse warn text = .ok (f, ws) := exists_parse_iff.mpr accepted
  obtain ⟨tokens, checked⟩ := parse_eq_ok_iff.mp h
  obtain rfl := Except.ok.inj (checked.symm.trans (f.precisionWarnings_tokens warn))
  exact ⟨f, tokens, h⟩

end Formula

/-! ## The option -/

/-- The values that switch off what they are given to: one that is missing or false, both zeros, and all that
is empty. -/
inductive Value.Off : Value → Prop
  | null : Value.Off .null
  | flag : Value.Off (.flag false)
  | int : Value.Off (.int 0)
  | real {x : Binary64} (zero : x.magnitude = 0) : Value.Off (.real x)
  | text : Value.Off (.text "")
  | list : Value.Off (.list [])
  | record : Value.Off (.record [])

theorem Value.isOn_eq_false_iff {v : Value} : v.isOn = false ↔ v.Off := by
  constructor
  · intro h
    cases v with
    | null => exact .null
    | flag b =>
      obtain rfl : b = false := h
      exact .flag
    | int n =>
      obtain rfl : n = 0 := by simpa [isOn] using h
      exact .int
    | real x => exact .real (by simpa [isOn] using h)
    | text s =>
      obtain rfl : s = "" := by simpa [isOn] using h
      exact .text
    | list items =>
      obtain rfl : items = [] := by simpa [isOn] using h
      exact .list
    | record fields =>
      obtain rfl : fields = [] := by simpa [isOn] using h
      exact .record
  · rintro (_ | _ | _ | zero | _ | _ | _)
    · rfl
    · rfl
    · rfl
    · simp [isOn, zero]
    · rfl
    · rfl
    · rfl

namespace Options

/-- The option has been set to a value that is off. -/
def Off (o : Options) : Prop :=
  ∃ v, List.lookup "warn_precision_loss" o.attributes = some v ∧ v.Off

/-- Warnings are wanted unless the option is off; also if it has been lost with all that was set. -/
theorem warns_eq_false_iff {o : Options} : o.warns = false ↔ o.Off := by
  unfold warns warnPrecisionLoss Off
  show _ ↔ ∃ v, o.attributes.get? warnPrecisionLossName = some v ∧ v.Off
  cases o.attributes.get? warnPrecisionLossName with
  | none => simp [Value.isOn]
  | some v => simp [Value.isOn_eq_false_iff]

end Options

namespace Session

/-! ## The warnings of a session -/

/-- The warnings that come with the outcome of an action. -/
def emitted : Except Error Answer → List Warning
  | .ok (.built _ ws) => ws
  | .ok (.warned ws) => ws
  | _ => []

variable {s : State} {slot text : String}

theorem act_new_rejected {r : Rejection} (rejected : Grammar.rejection? (scan text) = some r) :
    (s.act (.new slot (.text text))).2 = .error (.input (.rejected r)) := by
  have failed : Value.formula s.options.warns (.text text) = .error (.rejected r) :=
    Formula.parse_eq_error_iff.mpr ⟨r, rfl, rejected⟩
  simp only [State.act, State.new, failed]

/-- What comes of an accepted text. -/
theorem act_new_accepted (accepted : Grammar.rejection? (scan text) = none) :
    ∃ f : Formula, f.tokens = scan text ∧
      (s.options.Off → (s.act (.new slot (.text text))).2 = .ok (.built f.canonical [])) ∧
      (¬ s.options.Off →
        (s.act (.new slot (.text text))).2 = .ok (.built f.canonical f.warned)) := by
  obtain ⟨f, tokens, h⟩ := Formula.exists_parse_of_accepted s.options.warns accepted
  have made : Value.formula s.options.warns (.text text) = .ok (f, _) := h
  have outcome : (s.act (.new slot (.text text))).2 =
      .ok (.built f.canonical (if s.options.warns then f.warned else [])) := by
    simp only [State.act, State.new, made]
  refine ⟨f, tokens, fun off => ?_, fun on => ?_⟩
  · rw [outcome, Options.warns_eq_false_iff.mpr off]
    rfl
  · rw [outcome, if_pos (by simpa [← Options.warns_eq_false_iff] using on)]

end Session

end Formulary
