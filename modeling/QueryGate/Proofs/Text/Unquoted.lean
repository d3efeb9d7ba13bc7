import Mathlib.Tactic.SplitIfs
import QueryGate.Json.Body
import QueryGate.Text.Percent

/-!
# Texts without quotation marks

Messages that are put together from fixed words, numbers and names of kinds hold no double quotation
mark, and neither do percent-encoded texts. Main statements: `Text.isUnquoted_encode`, and
`Flaw.isUnquoted_message` for the flaws that a decoder finds.
-/

set_option autoImplicit false

namespace QueryGate

namespace Text

def IsUnquoted (s : String) : Prop := '"' ∉ s.toList

instance (s : String) : Decidable (IsUnquoted s) := inferInstanceAs (Decidable ('"' ∉ s.toList))

@[simp] theorem isUnquoted_append {s t : String} :
    IsUnquoted (s ++ t) ↔ IsUnquoted s ∧ IsUnquoted t := by
  simp [IsUnquoted]

@[simp] theorem isUnquoted_ofList {cs : List Char} : IsUnquoted (String.ofList cs) ↔ '"' ∉ cs := by
  simp [IsUnquoted]

theorem isUnquoted_literal {cs : List Char} (h : '"' ∉ cs) : IsUnquoted (String.ofList cs) :=
  isUnquoted_ofList.mpr h

theorem isUnquoted_ite {p : Prop} [Decidable p] {s t : String} (hs : IsUnquoted s)
    (ht : IsUnquoted t) : IsUnquoted (if p then s else t) := by
  split
  · exact hs
  · exact ht

theorem isUnquoted_elim {α : Type} {x : Option α} {s : String} {f : α → String}
    (hs : IsUnquoted s) (hf : ∀ a, IsUnquoted (f a)) : IsUnquoted (x.elim s f) := by
  cases x with
  | none => exact hs
  | some a => exact hf a

theorem isUnquoted_nat (n : Nat) : IsUnquoted (toString n) := by
  intro hmem
  have hdigits : '"' ∈ Nat.toDigits 10 n := by
    rw [← Nat.toList_repr]
    exact hmem
  have hdigit := Nat.isDigit_of_mem_toDigits (by omega) (by omega) hdigits
  exact absurd hdigit (by decide)

theorem isUnquoted_int (n : Int) : IsUnquoted (toString n) := by
  cases n with
  | ofNat n => exact isUnquoted_nat n
  | negSucc n => exact isUnquoted_append.mpr ⟨isUnquoted_literal (by decide),
      isUnquoted_nat (n + 1)⟩

theorem isUnquoted_kindName (v : Value) : IsUnquoted v.kindName := by
  cases v <;> simp [Value.kindName, IsUnquoted]

theorem mem_hexDigits {width n : Nat} {c : Char} (h : c ∈ hexDigits width n) :
    c ∈ "0123456789abcdef".toList := by
  have hdigit : ∀ k < 16, Nat.digitChar k ∈ "0123456789abcdef".toList := by decide
  induction width generalizing n with
  | zero => cases h
  | succ width ih =>
    rcases List.mem_append.mp h with hfront | hlast
    · exact ih hfront
    · rw [List.mem_singleton.mp hlast]
      exact hdigit _ (Nat.mod_lt _ (by omega))

theorem not_mem_hexDigits (width n : Nat) : '"' ∉ hexDigits width n := by
  intro h
  exact absurd (mem_hexDigits h) (by decide)

theorem ofNat_ne {n : Nat} {c : Char} (hc : c ≠ '\x00') (h : n ≠ c.toNat) : Char.ofNat n ≠ c := by
  rw [Char.ofNat]
  by_cases hvalid : n.isValidChar
  · rw [dif_pos hvalid]
    rintro rfl
    exact h rfl
  · rw [dif_neg hvalid]
    exact hc.symm

theorem asciiUpper_ne {c : Char} (h : c ≠ '"') : asciiUpper c ≠ '"' := by
  unfold asciiUpper
  split
  · rename_i hletter
    have hlow : 97 ≤ c.toNat := UInt32.le_iff_toNat_le.mp hletter.1
    have hmark : '"'.toNat = 34 := rfl
    exact ofNat_ne (by decide) (by omega)
  · exact h

theorem not_mem_byte (b : UInt8) : '"' ∉ Percent.byte b := by
  intro h
  rcases List.mem_cons.mp h with hpercent | hdigit
  · cases hpercent
  · obtain ⟨c, hc, hupper⟩ := List.mem_map.mp hdigit
    have hdigit : c ≠ '"' := by
      rintro rfl
      exact not_mem_hexDigits _ _ hc
    exact asciiUpper_ne hdigit hupper

theorem isUnquoted_encode {keep : Char → Bool} (hkeep : ¬keep '"') (s : String) :
    IsUnquoted (Percent.encode keep s) := by
  rw [Percent.encode, isUnquoted_ofList]
  intro h
  obtain ⟨c, -, hc⟩ := List.mem_flatMap.mp h
  unfold Percent.encodeChar at hc
  split at hc
  · rename_i hkept
    rw [← List.mem_singleton.mp hc] at hkept
    exact hkeep hkept
  · obtain ⟨b, -, hb⟩ := List.mem_flatMap.mp hc
    exact not_mem_byte b hb

theorem lowerChar_ne (c : Char) : lowerChar c ≠ 'D' := by
  have hlow : ∀ r ∈ capitalRuns, 97 ≤ r.2.2.2 := by decide +kernel
  have hD : 'D'.toNat = 68 := rfl
  unfold lowerChar
  dsimp only
  split
  · rename_i r hr
    have hrun := hlow r (List.mem_of_find?_eq_some hr)
    exact ofNat_ne (by decide) (by omega)
  · rename_i hnone
    rintro rfl
    exact absurd hnone (by decide +kernel)

theorem not_mem_lower (s : String) : 'D' ∉ (lower s).toList := by
  have hafter : ∀ before cs, 'D' ∉ lowerAfter before cs := by
    intro before cs
    induction cs generalizing before with
    | nil => simp [lowerAfter]
    | cons c rest ih =>
      rw [lowerAfter, List.mem_append]
      rintro (hlow | hrest)
      · split_ifs at hlow
        · exact absurd hlow (by decide)
        · exact absurd hlow (by decide)
        · exact absurd hlow (by decide)
        · exact lowerChar_ne c (List.mem_singleton.mp hlow).symm
      · exact ih _ hrest
  rw [lower, String.toList_ofList]
  exact hafter [] s.toList

end Text

open Text

namespace Decoded

def IsUnquoted (d : Decoded) : Prop := ∀ f, .error f ∈ d → Text.IsUnquoted f.reason

theorem isUnquoted_append {d d' : Decoded} (h : IsUnquoted d) (h' : IsUnquoted d') :
    IsUnquoted (d ++ d') := by
  intro f hf
  rcases List.mem_append.mp hf with hmem | hmem
  · exact h f hmem
  · exact h' f hmem

theorem isUnquoted_map_ok {α : Type} (f : α → Char) (xs : List α) :
    IsUnquoted (xs.map fun x => .ok (f x)) := by
  intro flaw hflaw
  obtain ⟨x, -, hx⟩ := List.mem_map.mp hflaw
  cases hx

theorem isUnquoted_singleton {start stop : Nat} {reason : String} (h : Text.IsUnquoted reason) :
    IsUnquoted [.error ⟨start, stop, reason⟩] := by
  intro f hf
  cases List.mem_singleton.mp hf
  exact h

theorem mem_of_strict_eq_error {d : Decoded} {f : Flaw} (h : d.strict = .error f) :
    .error f ∈ d := by
  induction d with
  | nil => cases h
  | cons x rest ih =>
    cases x with
    | error flaw =>
      cases h
      exact List.mem_cons_self ..
    | ok c =>
      cases hrest : strict rest with
      | ok cs =>
        rw [strict, hrest] at h
        cases h
      | error flaw =>
        rw [strict, hrest] at h
        cases h
        exact List.mem_cons_of_mem _ (ih hrest)

end Decoded

open Decoded

theorem Utf8.isUnquoted_lead (start b : Nat) : IsUnquoted (Utf8.lead start b).1 := by
  have hnone : IsUnquoted [] := by
    intro f hf
    cases hf
  unfold lead
  split_ifs
  · exact isUnquoted_map_ok Char.ofNat [b]
  all_goals first | exact hnone | exact isUnquoted_singleton (Text.isUnquoted_literal (by decide))

theorem Utf8.isUnquoted_step (position b : Nat) (pending : Option Utf8.Pending) :
    IsUnquoted (Utf8.step position b pending).1 := by
  cases pending with
  | none => exact isUnquoted_lead position b
  | some p =>
    unfold step
    dsimp only
    split_ifs
    · exact isUnquoted_map_ok Char.ofNat [_]
    · intro f hf
      cases hf
    · exact isUnquoted_append (isUnquoted_singleton (Text.isUnquoted_literal (by decide)))
        (isUnquoted_lead position b)

theorem Utf8.isUnquoted_decodeFrom (position : Nat) (pending : Option Utf8.Pending)
    (bytes : List UInt8) : IsUnquoted (Utf8.decodeFrom position pending bytes) := by
  induction bytes generalizing position pending with
  | nil =>
    cases pending with
    | none =>
      intro f hf
      cases hf
    | some p => exact isUnquoted_singleton (Text.isUnquoted_literal (by decide))
  | cons b rest ih =>
    have hstep := isUnquoted_step position b.toNat pending
    cases pending <;> exact isUnquoted_append hstep (ih _ _)

theorem isUnquoted_leftOver (position count : Nat) : IsUnquoted (leftOver position count) := by
  unfold leftOver
  split
  · intro f hf
    cases hf
  · exact isUnquoted_singleton (Text.isUnquoted_literal (by decide))

theorem Utf16.isUnquoted_decode (order : ByteOrder) (bytes : List UInt8) :
    IsUnquoted (Utf16.decode order bytes) :=
  isUnquoted_append (isUnquoted_map_ok id _) (isUnquoted_leftOver _ _)

theorem Utf32.isUnquoted_decodeFrom (order : ByteOrder) (position : Nat) (bytes : List UInt8) :
    IsUnquoted (Utf32.decodeFrom order position bytes) := by
  fun_induction Utf32.decodeFrom order position bytes with
  | case1 position a b c d rest n found ih =>
    refine isUnquoted_append (d := [found]) ?_ ih
    dsimp only [found]
    split
    · exact isUnquoted_map_ok unitChar [_]
    · exact isUnquoted_singleton (Text.isUnquoted_literal (by decide))
  | case2 position bytes _ => exact isUnquoted_leftOver _ _

theorem Encoding.isUnquoted_decodedMarked {width : Nat}
    {decode : ByteOrder → List UInt8 → Decoded} (h : ∀ order bytes, IsUnquoted (decode order bytes))
    (bytes : List UInt8) : IsUnquoted (decodedMarked width decode bytes) := by
  unfold decodedMarked
  split
  · exact h _ _
  · exact h _ _

theorem Encoding.isUnquoted_decoded (e : Encoding) (bytes : List UInt8) :
    IsUnquoted (e.decoded bytes) := by
  have h32 : ∀ order bytes, IsUnquoted (Utf32.decode order bytes) := fun order bytes =>
    Utf32.isUnquoted_decodeFrom order 0 bytes
  cases e with
  | utf8 => exact Utf8.isUnquoted_decodeFrom 0 none bytes
  | markedUtf8 => exact Utf8.isUnquoted_decodeFrom 0 none _
  | utf16 order =>
    cases order with
    | none => exact isUnquoted_decodedMarked Utf16.isUnquoted_decode bytes
    | some order => exact Utf16.isUnquoted_decode order bytes
  | utf32 order =>
    cases order with
    | none => exact isUnquoted_decodedMarked h32 bytes
    | some order => exact h32 order bytes
  | page upper => exact isUnquoted_map_ok _ bytes

theorem Encoding.isUnquoted_name (e : Encoding) : Text.IsUnquoted e.name := by
  have hsuffix : ∀ order : Option ByteOrder,
      Text.IsUnquoted (order.elim "" fun o => "-" ++ o.suffix) := by
    intro order
    rcases order with _ | _ | _ <;> decide
  cases e with
  | utf16 order => exact Text.isUnquoted_append.mpr ⟨by decide, hsuffix order⟩
  | utf32 order => exact Text.isUnquoted_append.mpr ⟨by decide, hsuffix order⟩
  | page upper => exact (by decide : Text.IsUnquoted "charmap")
  | _ => decide

theorem Flaw.isUnquoted_message {f : Flaw} (h : Text.IsUnquoted f.reason) {encoding : String}
    (hencoding : Text.IsUnquoted encoding) (bytes : List UInt8) :
    Text.IsUnquoted (f.message encoding bytes) := by
  unfold message
  extract_lets place
  have hplace : Text.IsUnquoted place := by
    dsimp only [place]
    split
    · simp only [Text.isUnquoted_append, Text.isUnquoted_ofList]
      exact ⟨⟨⟨isUnquoted_literal (by decide), not_mem_hexDigits _ _⟩,
        isUnquoted_literal (by decide)⟩, isUnquoted_nat _⟩
    · simp only [Text.isUnquoted_append]
      exact ⟨⟨⟨isUnquoted_literal (by decide), isUnquoted_nat _⟩, isUnquoted_literal (by decide)⟩,
        isUnquoted_nat _⟩
  simp only [Text.isUnquoted_append]
  exact ⟨⟨⟨⟨⟨isUnquoted_literal (by decide), hencoding⟩, isUnquoted_literal (by decide)⟩, hplace⟩,
    isUnquoted_literal (by decide)⟩, h⟩

end QueryGate
