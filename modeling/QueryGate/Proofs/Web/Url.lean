import QueryGate.Proofs.Attempt
import QueryGate.Proofs.Text.Unquoted
import QueryGate.Web.Url

/-!
# Addresses without a scheme, addresses that are refused

All parts of an address are percent-encoded but the host, which may hold quotation marks. An address
to which a request goes has no host without a scheme, so one without a scheme has no such mark. Main
statement: `Url.IsAnchored.isUnquoted_text`.
-/

set_option autoImplicit false

namespace QueryGate

open Attempt Text

namespace Url

variable {u : Url} {w : Written}

/-- The parts of an address that was put together, which are all encoded apart from the host. -/
theorem eq_of_ofWritten (h : ofWritten w = .ok u) :
    ∃ host service path, Host.normalize w.host = .ok host ∧
      u = ⟨String.ofList (w.scheme.toList.map asciiLower), Percent.encode isUserChar w.user, host,
        service, Percent.encode isPathChar path, w.query.map (Percent.encode isQueryChar),
        w.fragment.map (Percent.encode isFragmentChar)⟩ := by
  obtain ⟨host, hhost, h⟩ := bind_eq_ok.mp h
  obtain ⟨service, -, h⟩ := bind_eq_ok.mp h
  obtain ⟨_, -, h⟩ := bind_eq_ok.mp h
  cases h
  exact ⟨host, service, _, mapError_eq_ok.mp hhost, rfl⟩

theorem ofWritten_of_rebuild {replace : Written → Written} {u' : Url}
    (h : u.rebuild replace = .ok u') : ofWritten (replace u.written) = .ok u' := by
  unfold rebuild at h
  dsimp only at h
  obtain ⟨_, -, h⟩ := bind_eq_ok.mp h
  obtain ⟨_, -, h⟩ := bind_eq_ok.mp h
  obtain ⟨_, -, h⟩ := bind_eq_ok.mp h
  obtain ⟨_, -, h⟩ := bind_eq_ok.mp h
  obtain ⟨_, -, h⟩ := bind_eq_ok.mp h
  exact h

def IsAnchored (u : Url) : Prop :=
  u.scheme ≠ "" ∨ ∃ w : Written, w.host = "" ∧ ofWritten w = .ok u

theorem isAnchored_of_ofWritten (h : ofWritten w = .ok u) (hw : w.scheme ≠ "" ∨ w.host = "") :
    u.IsAnchored := by
  rcases hw with hscheme | hhost
  · obtain ⟨host, service, path, -, rfl⟩ := eq_of_ofWritten h
    refine .inl ?_
    simpa [← String.toList_eq_nil_iff] using hscheme
  · exact .inr ⟨w, hhost, h⟩

theorem IsAnchored.host_eq (h : u.IsAnchored) : u.scheme ≠ "" ∨ u.host = "" := by
  refine h.imp_right ?_
  rintro ⟨w, hhost, hw⟩
  obtain ⟨host, service, path, hnormal, rfl⟩ := eq_of_ofWritten hw
  rw [hhost] at hnormal
  exact (Except.ok.inj hnormal).symm

theorem IsAnchored.isUnquoted_text (h : u.IsAnchored) (hscheme : u.scheme = "") :
    IsUnquoted u.text := by
  rcases h with hne | ⟨w, hhost, hw⟩
  · exact absurd hscheme hne
  obtain ⟨host, service, path, hnormal, rfl⟩ := eq_of_ofWritten hw
  rw [hhost] at hnormal
  obtain rfl : "" = host := Except.ok.inj hnormal
  have hempty : IsUnquoted "" := isUnquoted_literal (by decide)
  have huser : IsUnquoted (Percent.encode isUserChar w.user) := isUnquoted_encode (by decide) w.user
  have hpath : IsUnquoted (Percent.encode isPathChar path) := isUnquoted_encode (by decide) path
  have hservice : IsUnquoted (service.elim "" fun n => ":" ++ toString n) :=
    isUnquoted_elim hempty fun n => isUnquoted_append.mpr ⟨isUnquoted_literal (by decide),
      isUnquoted_int n⟩
  have hauthority : IsUnquoted ((if (Percent.encode isUserChar w.user).isEmpty then ""
      else Percent.encode isUserChar w.user ++ "@") ++ bracketed "" ++
        service.elim "" fun n => ":" ++ toString n) := by
    simp only [isUnquoted_append]
    refine ⟨⟨isUnquoted_ite hempty ?_, by decide⟩, hservice⟩
    exact isUnquoted_append.mpr ⟨huser, isUnquoted_literal (by decide)⟩
  unfold text authority
  dsimp only at hscheme ⊢
  rw [hscheme, Option.elim_map, Option.elim_map]
  simp only [isUnquoted_append]
  refine ⟨⟨⟨⟨hempty, isUnquoted_ite hempty ?_⟩, hpath⟩, isUnquoted_elim hempty fun q => ?_⟩,
    isUnquoted_elim hempty fun f => ?_⟩
  · exact isUnquoted_append.mpr ⟨isUnquoted_literal (by decide), hauthority⟩
  · exact isUnquoted_append.mpr ⟨isUnquoted_literal (by decide), isUnquoted_encode (by decide) q⟩
  · exact isUnquoted_append.mpr ⟨isUnquoted_literal (by decide), isUnquoted_encode (by decide) f⟩

theorem parse_of_readInt? {s scheme user host : String}
    {behind authority rest service name number : List Char} {fault : WholeNumberFault}
    (hlength : s.toList.length ≤ maxLength) (hcontrol : s.toList.findIdx? isControl = none)
    (hscheme : cutScheme s.toList = (scheme, behind))
    (hauthority : cutAuthority behind = (authority, rest))
    (huser : cutUser authority = (user, service))
    (hhost : cutHost service = (name, ':' :: number))
    (hnormal : Host.normalize (String.ofList name) = .ok host) (hne : number ≠ [])
    (hnumber : readInt? number = .error fault) :
    parse s = .error (.service (String.ofList number)) := by
  have hwritten : (Written.ofText s).host = String.ofList name ∧
      (Written.ofText s).service = String.ofList number := by
    unfold Written.ofText
    rw [hscheme]
    dsimp only
    rw [hauthority]
    dsimp only
    rw [huser]
    dsimp only
    rw [hhost]
    exact ⟨rfl, rfl⟩
  have hread : ∀ scheme, readService scheme (String.ofList number) =
      .error (.service (String.ofList number)) := by
    intro scheme
    have hempty : ¬(String.ofList number).isEmpty := by
      simpa [← String.toList_eq_nil_iff] using hne
    rw [readService, if_neg hempty, String.toList_ofList, hnumber]
  have hlong : ¬maxLength < s.length := by
    rw [← String.length_toList]
    omega
  unfold parse
  rw [if_neg hlong, hcontrol]
  dsimp only [ofWritten]
  rw [hwritten.1, hnormal, hwritten.2, hread]
  rfl

end Url

end QueryGate
