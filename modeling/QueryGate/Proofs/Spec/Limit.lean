import Mathlib.Algebra.Order.Monoid.WithTop
import Mathlib.Order.WithBot
import QueryGate.Proofs.Number.Rational
import QueryGate.Proofs.Number.Reading
import QueryGate.Proofs.Spec.Accepted
import QueryGate.Proofs.Whitelist.Standard

/-!
# Which limit a value comes to

A limit is asked for by a number: as such, or as a text that is read as one, blanks around it aside.
The whole part of the number counts if it is within the limits of the whitelist, the greatest limit
for anything beyond them, and the default for everything else. Main statement:
`Whitelist.sanitizeLimit_exact`.
-/

set_option autoImplicit false

namespace QueryGate

abbrev Extended : Type := WithBot (WithTop ℚ)

namespace Extended

def ofRat (q : ℚ) : Extended := ((q : WithTop ℚ) : WithBot (WithTop ℚ))

theorem ofRat_lt_ofRat {p q : ℚ} : ofRat p < ofRat q ↔ p < q := by
  rw [ofRat, ofRat, WithBot.coe_lt_coe, WithTop.coe_lt_coe]

theorem ofRat_le_ofRat {p q : ℚ} : ofRat p ≤ ofRat q ↔ p ≤ q := by
  rw [ofRat, ofRat, WithBot.coe_le_coe, WithTop.coe_le_coe]

end Extended

/-- The number that a datum stands for; a NaN stands for none. -/
def Binary64.extended? : Binary64 → Option Extended
  | .nan => none
  | .infinite negative => some (if negative then ⊥ else ⊤)
  | x@(.finite _ _ _) => x.toRat?.map Extended.ofRat

/-- The number that a value is, or that its text without the blanks around it is read as. -/
def Value.number? : Value → Option Extended
  | .int n => some (.ofRat n)
  | .float x => x.extended?
  | .text s => (Binary64.read? (Text.trimBy Text.isBlank s.toList)).bind (·.extended?)
  | _ => none

namespace Whitelist

variable {w : Whitelist}

/-- The limit that a number comes to, or the lack of one. -/
inductive LimitFor (w : Whitelist) : Option Extended → Int → Prop
  | within {q : ℚ} (hlow : 1 ≤ wholePart q) (hhigh : wholePart q ≤ w.maxLimit) :
      LimitFor w (some (.ofRat q)) (wholePart q)
  | above {x : Extended} (h : .ofRat w.maxLimit < x) : LimitFor w (some x) w.maxLimit
  | tooSmall {q : ℚ} (h : wholePart q ≤ 0) : LimitFor w (some (.ofRat q)) w.defaultLimit
  | negative : LimitFor w (some ⊥) w.defaultLimit
  | noNumber : LimitFor w none w.defaultLimit

theorem limitFor_clampLimit (q : ℚ) :
    w.LimitFor (some (.ofRat q)) (w.clampLimit (wholePart q)) := by
  unfold clampLimit
  split
  · exact .tooSmall ‹_›
  · rename_i hpos
    have hlow : 1 ≤ wholePart q := by omega
    have hq : (wholePart q : ℚ) ≤ q := wholePart_le (by linarith [one_le_wholePart.mp hlow])
    rcases le_or_gt (wholePart q) w.maxLimit with hhigh | habove
    · rw [min_eq_left hhigh]
      exact .within hlow hhigh
    · rw [min_eq_right habove.le]
      refine .above (Extended.ofRat_lt_ofRat.mpr ?_)
      exact lt_of_lt_of_le (by exact_mod_cast habove) hq

theorem limitFor_floatLimit (x : Binary64) : w.LimitFor x.extended? (w.floatLimit x) := by
  cases x with
  | nan => exact .noNumber
  | infinite negative =>
    cases negative with
    | true => exact .negative
    | false => exact .above (WithBot.coe_lt_coe.mpr (WithTop.coe_lt_top _))
  | finite negative m e =>
    obtain ⟨q, hq⟩ : ∃ q, (Binary64.finite negative m e).toRat? = some q := ⟨_, rfl⟩
    have hlimit : w.floatLimit (.finite negative m e) = w.clampLimit (wholePart q) := by
      rw [floatLimit, Binary64.truncate?_eq, hq]
      rfl
    rw [Binary64.extended?, hq, hlimit]
    exact limitFor_clampLimit q

theorem limitFor_sanitizeLimit (v : Value) : w.LimitFor v.number? (w.sanitizeLimit v) := by
  cases v with
  | int n =>
    have hclamp := limitFor_clampLimit (w := w) n
    rwa [wholePart_intCast] at hclamp
  | float x => exact limitFor_floatLimit x
  | text s =>
    rw [Value.number?, sanitizeLimit]
    cases Binary64.read? (Text.trimBy Text.isBlank s.toList) with
    | none => exact .noNumber
    | some x => exact limitFor_floatLimit x
  | _ => exact .noNumber

namespace LimitFor

variable {x y : Extended} {m n : Int}

/-- From one on, the limit is the greatest integer that neither the number nor the greatest limit
is below. -/
theorem le_iff (h : w.LimitFor (some x) n) (hx : .ofRat 1 ≤ x) (k : Int) :
    k ≤ n ↔ k ≤ w.maxLimit ∧ .ofRat k ≤ x := by
  cases h with
  | @within q hlow hhigh =>
    have hq : 1 ≤ q := Extended.ofRat_le_ofRat.mp hx
    rw [Extended.ofRat_le_ofRat, ← le_wholePart (by linarith)]
    exact ⟨fun hk => ⟨hk.trans hhigh, hk⟩, And.right⟩
  | above habove =>
    refine ⟨fun hk => ⟨hk, le_trans ?_ habove.le⟩, And.left⟩
    exact Extended.ofRat_le_ofRat.mpr (by exact_mod_cast hk)
  | @tooSmall q hsmall =>
    have hq : 1 ≤ wholePart q := one_le_wholePart.mpr (Extended.ofRat_le_ofRat.mp hx)
    omega
  | negative => exact absurd (le_bot_iff.mp hx) (WithBot.coe_ne_bot)

theorem mono (hm : w.LimitFor (some x) m) (hn : w.LimitFor (some y) n) (hx : .ofRat 1 ≤ x)
    (hxy : x ≤ y) : m ≤ n := by
  obtain ⟨hmax, hm⟩ := (hm.le_iff hx m).mp le_rfl
  exact (hn.le_iff (hx.trans hxy) m).mpr ⟨hmax, hm.trans hxy⟩

theorem eq_default (hw : w.Bounded) (h : w.LimitFor (some x) n) (hx : x < .ofRat 1) :
    n = w.defaultLimit := by
  cases h with
  | @within q hlow hhigh =>
    have hq : q < 1 := Extended.ofRat_lt_ofRat.mp hx
    exact absurd (one_le_wholePart.mp hlow) hq.not_ge
  | above habove =>
    have hmax : (w.maxLimit : ℚ) < 1 := Extended.ofRat_lt_ofRat.mp (habove.trans hx)
    have hpos := hw.permits_max.1
    exact absurd hmax (by exact_mod_cast hpos.not_gt)
  | tooSmall | negative => rfl

theorem unique (hw : w.Bounded) {x : Option Extended} (hm : w.LimitFor x m)
    (hn : w.LimitFor x n) : m = n := by
  cases x with
  | none =>
    cases hm
    cases hn
    rfl
  | some x =>
    rcases lt_or_ge x (.ofRat 1) with hx | hx
    · rw [hm.eq_default hw hx, hn.eq_default hw hx]
    · exact le_antisymm (hm.mono hn hx le_rfl) (hn.mono hm hx le_rfl)

end LimitFor

theorem number?_text {s : String} {x : Binary64} (h : Binary64.read? s.toList = some x) :
    (Value.text s).number? = x.extended? := by
  rw [Value.number?, Binary64.read?_trimBy h, Option.bind_some]

/-- Every value comes to a limit between one and the greatest, to the one that its number has and
to no other; a text that is itself read as a number has that one. From one on, a greater number
comes to no smaller limit. -/
theorem sanitizeLimit_exact {doc : Value} (h : ofDocument doc = .ok w) :
    (∀ v, w.Permits (w.sanitizeLimit v)) ∧
      (∀ v n, w.sanitizeLimit v = n ↔ w.LimitFor v.number? n) ∧
      (∀ s x, Binary64.read? s.toList = some x → (Value.text s).number? = x.extended?) ∧
      ∀ u v x y, u.number? = some x → v.number? = some y → .ofRat 1 ≤ x → x ≤ y →
        w.sanitizeLimit u ≤ w.sanitizeLimit v := by
  have hw := bounded_of_ofDocument h
  refine ⟨hw.permits_sanitizeLimit, ?_, fun _ _ => number?_text, ?_⟩
  · intro v n
    constructor
    · rintro rfl
      exact limitFor_sanitizeLimit v
    · exact fun hn => (limitFor_sanitizeLimit v).unique hw hn
  · intro u v x y hu hv hx hxy
    have hm := limitFor_sanitizeLimit (w := w) u
    have hn := limitFor_sanitizeLimit (w := w) v
    rw [hu] at hm
    rw [hv] at hn
    exact hm.mono hn hx hxy

/-- The float just below three asks for two, in its text as well. -/
theorem sanitizeLimit_exact_standard :
    ofDocument standardDocument = .ok standard ∧
      standard.LimitFor (Value.text " 2.9999999999999996").number? 2 := by
  have hspec := sanitizeLimit_exact ofDocument_standardDocument
  refine ⟨ofDocument_standardDocument, (hspec.2.1 _ _).mp ?_⟩
  decide +kernel

/-- A separator in front of a numeral is taken away before the text is read, although the text by
itself is no number. -/
theorem separator_before_numeral :
    Binary64.read? "\x1c5".toList = none ∧ standard.sanitizeLimit (.text "\x1c5") = 5 ∧
      standard.defaultLimit = 10 := by
  refine ⟨?_, ?_, rfl⟩
  · cbv
  · decide +kernel

end Whitelist

end QueryGate
