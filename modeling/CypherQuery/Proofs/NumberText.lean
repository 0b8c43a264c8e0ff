/-
**The characters of numbers.**

Whole numbers and doubles are written with digits, signs, points and the letter of the exponent.  A
point never ends a number, and always has a digit behind it.

Main definitions:

* `CypherQuery.isNumberText` — **whether characters can stand in a number like this**.

Main results:

* `CypherQuery.isNumberText_integer`, `CypherQuery.isNumberText_write` — **numbers are written with
  such characters**;
* `CypherQuery.all_of_isNumberText` — what holds of digits and of the signs holds of all characters
  of a number.
-/

import CypherQuery.Decimal.Layout

set_option autoImplicit false

namespace CypherQuery

/-! ### Characters of numbers -/

/-- Whether characters start with a digit. -/
def startsWithDigit : List Char → Bool
  | [] => false
  | c :: _ => c.isDigit

/-- Whether a character of a number is no digit and no point. -/
def isNumberSign (c : Char) : Bool := c == '-' || c == 'e' || c == '+'

/-- **Whether characters can stand in a number**: they are digits and signs, and points with a digit
behind them. -/
def isNumberText : List Char → Bool
  | [] => true
  | c :: cs => (c.isDigit || isNumberSign c || (c == '.' && startsWithDigit cs)) && isNumberText cs

theorem startsWithDigit_append {as : List Char} (h : startsWithDigit as = true) (bs : List Char) :
    startsWithDigit (as ++ bs) = true := by
  cases as with
  | nil => cases h
  | cons c cs => exact h

theorem isNumberText_append {as bs : List Char} (has : isNumberText as = true)
    (hbs : isNumberText bs = true) : isNumberText (as ++ bs) = true := by
  induction as with
  | nil => exact hbs
  | cons c cs ih =>
      rw [isNumberText, Bool.and_eq_true, Bool.or_eq_true, Bool.and_eq_true] at has
      rw [List.cons_append, isNumberText, ih has.2, Bool.and_true, Bool.or_eq_true,
        Bool.and_eq_true]
      exact has.1.imp_right fun hpoint => ⟨hpoint.1, startsWithDigit_append hpoint.2 bs⟩

theorem isNumberText_of_digits {cs : List Char} (h : cs.all Char.isDigit = true) :
    isNumberText cs = true := by
  induction cs with
  | nil => rfl
  | cons c cs ih =>
      rw [List.all_cons, Bool.and_eq_true] at h
      simp [isNumberText, h.1, ih h.2]

/-- Digits behind a point. -/
theorem isNumberText_point {cs : List Char} (h : cs.all Char.isDigit = true) (hne : cs ≠ []) :
    isNumberText ('.' :: cs) = true := by
  have hstart : startsWithDigit cs = true := by
    cases cs with
    | nil => exact absurd rfl hne
    | cons c cs =>
        rw [List.all_cons, Bool.and_eq_true] at h
        exact h.1
  rw [isNumberText, isNumberText_of_digits h, hstart]
  rfl

/-- **What holds of digits and of the signs** holds of all characters of a number. -/
theorem all_of_isNumberText {p : Char → Bool} (hdigit : ∀ c, c.isDigit = true → p c = true)
    (hsigns : ['-', 'e', '+', '.'].all p = true) {cs : List Char} (h : isNumberText cs = true) :
    cs.all p = true := by
  simp only [List.all_cons, List.all_nil, Bool.and_true, Bool.and_eq_true] at hsigns
  induction cs with
  | nil => rfl
  | cons c cs ih =>
      rw [isNumberText, Bool.and_eq_true] at h
      rw [List.all_cons, ih h.2, Bool.and_true]
      simp only [isNumberSign, Bool.or_eq_true, Bool.and_eq_true, beq_iff_eq] at h
      rcases h.1 with (hc | (rfl | rfl) | rfl) | ⟨rfl, -⟩
      · exact hdigit c hc
      · exact hsigns.1
      · exact hsigns.2.1
      · exact hsigns.2.2.1
      · exact hsigns.2.2.2

/-! ### Whole numbers -/

theorem all_isDigit_natural (n : Nat) : (toString n).toList.all Char.isDigit = true := by
  refine List.all_eq_true.2 fun c hc => ?_
  refine Nat.isDigit_of_mem_toDigits (b := 10) (n := n) (by decide) (by decide) ?_
  simpa using hc

theorem isNumberText_natural (n : Nat) : isNumberText (toString n).toList = true :=
  isNumberText_of_digits (all_isDigit_natural n)

/-- **Whole numbers** are written with characters of numbers. -/
theorem isNumberText_integer (n : Int) : isNumberText (toString n).toList = true := by
  cases n with
  | ofNat n => exact isNumberText_natural n
  | negSucc n =>
      change isNumberText ("-" ++ toString (n + 1)).toList = true
      rw [String.toList_append]
      exact isNumberText_append rfl (isNumberText_natural (n + 1))

/-! ### Doubles -/

section

variable {digits : String} (hdigits : digits.toList.all Char.isDigit = true)

include hdigits

theorem isNumberText_positional (hne : digits.toList ≠ []) (d : Decimal) :
    isNumberText (Decimal.Layout.positional d digits).toList = true := by
  have hzeros : ∀ n, (List.replicate n '0').all Char.isDigit = true := by
    intro n
    rw [List.all_replicate]
    split <;> rfl
  unfold Decimal.Layout.positional
  dsimp only
  split
  · simp only [String.toList_append, String.toList_ofList]
    exact isNumberText_append (isNumberText_append (isNumberText_of_digits hdigits)
      (isNumberText_of_digits (hzeros _))) rfl
  next hneg =>
    split
    · simp only [String.toList_append, String.toList_ofList, List.append_assoc]
      have hall : (List.replicate ((-d.exponent).toNat - digits.length) '0' ++
          digits.toList).all Char.isDigit = true := by
        rw [List.all_append, hzeros, hdigits]
        rfl
      have hfraction := isNumberText_point hall (List.append_ne_nil_of_right_ne_nil _ hne)
      exact @isNumberText_append ['0'] _ rfl hfraction
    next hlong =>
      -- the point stands somewhere between the digits
      rw [List.all_eq_true] at hdigits
      rw [String.toList_ofList]
      refine isNumberText_append (isNumberText_of_digits ?_) (isNumberText_point ?_ ?_)
      · exact List.all_eq_true.2 fun c hc => hdigits c (List.mem_of_mem_take hc)
      · exact List.all_eq_true.2 fun c hc => hdigits c (List.mem_of_mem_drop hc)
      · rw [Ne, List.drop_eq_nil_iff, ← String.length_toList] at *
        omega

theorem isNumberText_scientific (layout : Decimal.Layout) (lead : Int) :
    isNumberText (layout.scientific lead digits).toList = true := by
  have hexponent : isNumberText ("e" ++ (if layout.plusSign && lead ≥ 0 then "+" else "") ++
      toString lead).toList = true := by
    rw [String.toList_append, String.toList_append]
    refine isNumberText_append (isNumberText_append rfl ?_) (isNumberText_integer lead)
    split <;> rfl
  simp only [Decimal.Layout.scientific, String.append_assoc, String.toList_append] at hexponent ⊢
  refine isNumberText_append ?_ hexponent
  split
  · rfl
  next c hcs =>
    rw [hcs] at hdigits
    rw [String.toList_ofList]
    exact isNumberText_of_digits hdigits
  next c cs hlong hcs =>
    rw [hcs, List.all_cons, Bool.and_eq_true] at hdigits
    rw [String.toList_ofList]
    refine @isNumberText_append [c] ('.' :: cs) ?_ (isNumberText_point hdigits.2 ?_)
    · simp [isNumberText, hdigits.1]
    · rintro rfl
      exact hlong rfl

end

/-- **Doubles** are written with characters of numbers. -/
theorem isNumberText_write (layout : Decimal.Layout) (x : Binary64) :
    isNumberText (layout.write x).toList = true := by
  have htext : isNumberText (if x.isZero then "0.0"
      else layout.writeDecimal (x.shortest layout.tie)).toList = true := by
    split
    · rfl
    have hdigits := all_isDigit_natural (x.shortest layout.tie).digits
    have hne : (toString (x.shortest layout.tie).digits).toList ≠ [] := by
      simp
    unfold Decimal.Layout.writeDecimal
    dsimp only
    split
    · exact isNumberText_positional hdigits hne _
    · exact isNumberText_scientific hdigits _ _
  unfold Decimal.Layout.write
  dsimp only
  split
  · rw [String.toList_append]
    exact isNumberText_append rfl htext
  · exact htext

end CypherQuery
