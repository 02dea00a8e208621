import Xygo.Analysis.SessionRaces

/-!
# The signature of a cookie

A signed value ends with the HMAC of what stands before its last dot. The check compares the two
signatures with `timingSafeEqual`, which throws on buffers of different sizes; the guard in front of
it compares their lengths in UTF-16, and a text with as many code units as the HMAC has more bytes
as soon as one of its characters is not ASCII. Such a value makes the check throw; every other one
is answered as it should be (`signed_values_verified`).
-/

set_option autoImplicit false

namespace Xygo.Analysis

open Xygo.Model SessionManager

/-- A digest of 32 bytes in base64url. -/
structure IsDigest (text : String) : Prop where
  length : text.toList.length = 43
  alphabet : ∀ c ∈ text.toList, c.isAlphanum = true ∨ c = '-' ∨ c = '_'

/-- What the check of a value must give: an answer, which is the id exactly where the value is the
signed id. -/
def Verified (M : SessionManager) (value : Option String) : Prop :=
  ∃ answer, M.verifySigned value = .ok answer ∧
    ∀ id, answer = some id ↔ id ≠ "" ∧ value = some (M.signedValue id)

/-- A value whose last part has the length of a signature and a character that is not ASCII.
SOURCE: apps/web/src/auth-session.js:32-37 -/
def IsMisfit (value : Option String) : Prop :=
  ∃ id signature, splitAtLastDot (value.getD "") = some (id, signature) ∧ id ≠ "" ∧
    utf16Length signature = 43 ∧ ∃ c ∈ signature.toList, 128 ≤ c.toNat

/-! ## Sizes of texts -/

/-- INTERNAL: a character has at least as many bytes as code units, and more unless it is ASCII. -/
theorem units_le_bytes (c : Char) :
    (if c.toNat < 0x10000 then 1 else 2) ≤ c.utf8Size ∧
      (128 ≤ c.toNat → (if c.toNat < 0x10000 then 1 else 2) < c.utf8Size) ∧
      (c.toNat < 128 → c.utf8Size = 1) := by
  have hsize := Char.utf8Size_eq c
  have hone : c.utf8Size = 1 ↔ c.toNat ≤ 127 := Char.utf8Size_eq_one_iff
  have hfour : c.utf8Size = 4 ↔ 0xffff < c.toNat := Char.utf8Size_eq_four_iff
  split <;> omega

/-- INTERNAL: the bytes of a text are those of its characters. -/
theorem utf8ByteSize_eq_sum (value : String) :
    value.utf8ByteSize = (value.toList.map Char.utf8Size).sum := by
  rw [← String.ofList_toList (s := value)]
  induction value.toList with
  | nil => rfl
  | cons c cs ih =>
    rw [← List.singleton_append, String.ofList_append, String.utf8ByteSize_append, ih]
    simp

/-- INTERNAL: a text has at least as many bytes as code units, and more unless it is ASCII. -/
theorem utf16Length_le (value : String) :
    utf16Length value ≤ value.utf8ByteSize ∧
      (utf16Length value = value.utf8ByteSize ↔ ∀ c ∈ value.toList, c.toNat < 128) := by
  rw [utf8ByteSize_eq_sum, utf16Length]
  induction value.toList with
  | nil => simp
  | cons c cs ih =>
    obtain ⟨hle, hlt, hone⟩ := units_le_bytes c
    obtain ⟨hrest, hiff⟩ := ih
    simp only [List.map_cons, List.sum_cons, List.forall_mem_cons]
    constructor
    · omega
    · rw [← hiff]
      by_cases hc : c.toNat < 128
      · have hunit : (if c.toNat < 0x10000 then 1 else 2) = 1 := if_pos (by omega)
        have hbyte := hone hc
        omega
      · have hmore := hlt (by omega)
        omega

/-! ## The last dot -/

/-- INTERNAL: a text is split where its second part has no dot.
SOURCE: apps/web/src/auth-session.js:32-35 -/
theorem splitAtLastDot_append {id signature : String} (hdot : '.' ∉ signature.toList) :
    splitAtLastDot (id ++ "." ++ signature) = some (id, signature) := by
  have hreversed : (id ++ "." ++ signature).toList.reverse =
      signature.toList.reverse ++ '.' :: id.toList.reverse := by simp
  have hplain : ∀ c ∈ signature.toList.reverse, decide (c ≠ '.') = true := by
    intro c hc
    apply decide_eq_true
    rintro rfl
    exact hdot (List.mem_reverse.mp hc)
  unfold splitAtLastDot
  dsimp only
  rw [hreversed, List.dropWhile_append_of_pos hplain, List.takeWhile_append_of_pos hplain,
    List.dropWhile_cons_of_neg (by simp), List.takeWhile_cons_of_neg (by simp)]
  simp

/-- INTERNAL: the two parts of a text make it up.
SOURCE: apps/web/src/auth-session.js:32-35 -/
theorem eq_of_splitAtLastDot {value id signature : String}
    (h : splitAtLastDot value = some (id, signature)) : value = id ++ "." ++ signature := by
  unfold splitAtLastDot at h
  dsimp only at h
  cases hdrop : value.toList.reverse.dropWhile (· ≠ '.') with
  | nil =>
    rw [hdrop] at h
    cases h
  | cons c rest =>
    rw [hdrop] at h
    obtain ⟨hid, hsignature⟩ := Prod.mk.inj (Option.some.inj h)
    have hdot : c = '.' := by
      have hne : value.toList.reverse.dropWhile (· ≠ '.') ≠ [] := by
        rw [hdrop]
        exact List.cons_ne_nil _ _
      have hhead := List.head_dropWhile_not _ hne
      simp only [hdrop, List.head_cons] at hhead
      simpa using hhead
    have hsplit := List.takeWhile_append_dropWhile (p := (· ≠ '.')) (l := value.toList.reverse)
    rw [hdrop, hdot] at hsplit
    have hvalue : value.toList = rest.reverse ++ '.' ::
        (value.toList.reverse.takeWhile (· ≠ '.')).reverse := by
      have hreverse := congrArg List.reverse hsplit
      simpa using hreverse.symm
    rw [← String.toList_inj, hvalue, ← hid, ← hsignature]
    simp

/-! ## The check -/

section

variable {M : SessionManager}

/-- INTERNAL: a digest is plain text: its bytes are its code units, and it has no dot. -/
theorem IsDigest.plain {text : String} (h : IsDigest text) :
    utf16Length text = 43 ∧ text.utf8ByteSize = 43 ∧ '.' ∉ text.toList := by
  have hascii : ∀ c ∈ text.toList, c.toNat < 128 := by
    intro c hc
    obtain halphanum | rfl | rfl := h.alphabet c hc
    · simp only [Char.isAlphanum, Char.isAlpha, Char.isUpper, Char.isLower, Char.isDigit,
        Bool.or_eq_true, Bool.and_eq_true, decide_eq_true_eq, UInt32.le_iff_toNat_le] at halphanum
      have hlast : 'Z'.val.toNat = 90 ∧ 'z'.val.toNat = 122 ∧ '9'.val.toNat = 57 := by decide
      simp only [Char.toNat]
      omega
    · decide
    · decide
  have hunits : utf16Length text = 43 := by
    have hone : (text.toList.map fun c => if c.toNat < 0x10000 then 1 else 2) =
        text.toList.map fun _ => 1 := by
      apply List.map_congr_left
      intro c hc
      have hlt := hascii c hc
      exact if_pos (by omega)
    rw [utf16Length, hone]
    simp [h.length]
  refine ⟨hunits, ?_, ?_⟩
  · rw [← (utf16Length_le text).2.mpr hascii, hunits]
  · intro hdot
    obtain halphanum | hdash | hline := h.alphabet _ hdot
    · revert halphanum
      decide
    · revert hdash
      decide
    · revert hline
      decide

/-- INTERNAL: a signed value is answered with what was signed.
SOURCE: apps/web/src/auth-session.js:26-39 -/
theorem verifySigned_signedValue (hsign : ∀ value, IsDigest (M.sign value M.secret))
    {value : String}
    (hvalue : value ≠ "") : M.verifySigned (some (M.signedValue value)) = .ok (some value) := by
  unfold verifySigned signedValue
  simp only [Option.getD_some, splitAtLastDot_append (hsign value).plain.2.2, hvalue, if_false,
    ne_eq, not_true_eq_false, if_true]

/-- INTERNAL: what the check answers where the last part has the length of a signature.
SOURCE: apps/web/src/auth-session.js:30-39 -/
theorem verified_iff (hsign : ∀ value, IsDigest (M.sign value M.secret)) (value : Option String) :
    Verified M value ↔ ¬ IsMisfit value := by
  unfold Verified
  cases hsplit : splitAtLastDot (value.getD "") with
  | none =>
    have hnone : M.verifySigned value = .ok none := by
      rw [verifySigned, hsplit]
    constructor
    · rintro - ⟨id, signature, hsome, -⟩
      rw [hsplit] at hsome
      cases hsome
    · intro _
      refine ⟨none, hnone, fun id => ⟨fun h => (by cases h), ?_⟩⟩
      rintro ⟨-, rfl⟩
      rw [Option.getD_some, signedValue, splitAtLastDot_append (hsign id).plain.2.2] at hsplit
      cases hsplit
  | some parts =>
    obtain ⟨id, signature⟩ := parts
    have hvalue : value = some (id ++ "." ++ signature) := by
      have heq := eq_of_splitAtLastDot hsplit
      cases value with
      | none =>
        have hlists := congrArg String.toList heq
        simp at hlists
      | some text => exact congrArg some heq
    obtain ⟨hunits, hbytes, -⟩ := (hsign id).plain
    -- the value is the signed value of some id exactly where it is that of its first part
    have hsigned : ∀ other, value = some (M.signedValue other) ↔
        other = id ∧ signature = M.sign id M.secret := by
      intro other
      constructor
      · intro hother
        rw [hother, Option.getD_some, signedValue,
          splitAtLastDot_append (hsign other).plain.2.2] at hsplit
        obtain ⟨rfl, hsignature⟩ := Prod.mk.inj (Option.some.inj hsplit)
        exact ⟨rfl, hsignature.symm⟩
      · rintro ⟨rfl, rfl⟩
        exact hvalue
    have hmisfit : IsMisfit value ↔ id ≠ "" ∧ utf16Length signature = 43 ∧
        signature.utf8ByteSize ≠ 43 := by
      obtain ⟨-, hascii⟩ := utf16Length_le signature
      constructor
      · rintro ⟨id', signature', hsplit', hid, hlength, c, hc, hbig⟩
        obtain ⟨rfl, rfl⟩ := Prod.mk.inj (Option.some.inj (hsplit.symm.trans hsplit'))
        refine ⟨hid, hlength, fun hsize => ?_⟩
        have hsmall := hascii.mp (by rw [hlength, hsize]) c hc
        omega
      · rintro ⟨hid, hlength, hsize⟩
        refine ⟨id, signature, hsplit, hid, hlength, ?_⟩
        by_contra hnone
        push Not at hnone
        have hsame := hascii.mpr hnone
        omega
    rw [hmisfit, verifySigned, hsplit]
    dsimp only
    rw [hunits, hbytes]
    by_cases hid : id = ""
    · rw [if_pos hid]
      refine ⟨fun _ h => h.1 hid, fun _ => ⟨none, rfl, fun other => ⟨fun h => (by cases h), ?_⟩⟩⟩
      rintro ⟨hother, hsame⟩
      exact absurd (((hsigned other).mp hsame).1.trans hid) hother
    rw [if_neg hid]
    by_cases hlength : utf16Length signature = 43
    swap
    · rw [if_pos hlength]
      refine ⟨fun _ h => hlength h.2.1, fun _ => ⟨none, rfl, fun other =>
        ⟨fun h => (by cases h), ?_⟩⟩⟩
      rintro ⟨-, hsame⟩
      rw [((hsigned other).mp hsame).2] at hlength
      exact absurd hunits hlength
    rw [if_neg (not_not.mpr hlength)]
    by_cases hsize : signature.utf8ByteSize = 43
    swap
    · rw [if_pos hsize]
      refine ⟨fun ⟨answer, hanswer, _⟩ => (by cases hanswer), fun h => ?_⟩
      exact absurd ⟨hid, hlength, hsize⟩ h
    rw [if_neg (not_not.mpr hsize)]
    refine ⟨fun _ h => h.2.2 hsize, fun _ => ?_⟩
    by_cases hsame : signature = M.sign id M.secret
    · rw [if_pos hsame]
      refine ⟨some id, rfl, fun other => ?_⟩
      rw [hsigned, Option.some.injEq]
      constructor
      · rintro rfl
        exact ⟨hid, rfl, hsame⟩
      · exact fun h => h.2.1.symm
    · rw [if_neg hsame]
      refine ⟨none, rfl, fun other => ⟨fun h => (by cases h), ?_⟩⟩
      rintro ⟨-, hother⟩
      exact absurd ((hsigned other).mp hother).2 hsame

end

/-- **Which values the check answers.** The check gives the id back exactly where the value is the
signed id, and `null` otherwise, except that it throws on a value whose last part is as long as a
signature and not ASCII. What is signed is given back.
SOURCE: apps/web/src/auth-session.js:22-39 -/
theorem signed_values_verified (M : SessionManager)
    (hsign : ∀ value, IsDigest (M.sign value M.secret)) :
    (∀ value, Verified M value ↔ ¬ IsMisfit value) ∧
      ∀ value, value ≠ "" → M.verifySigned (some (M.signedValue value)) = .ok (some value) :=
  ⟨verified_iff hsign, fun _ hvalue => verifySigned_signedValue hsign hvalue⟩

/-- The HMAC-SHA256 of `s1` under the key `secret`, in base64url. -/
def s1Signature : List Char :=
  ['e', 's', 'k', 'z', 'y', 'X', 'R', 'e', '1', 'k', 't', 'M', 'C', 'k', 'b', 'F', '9', 'B', 'B',
  '4', '9', 'v', 'F', 's', 't', 'M', 'R', 'a', 'o', '1', 'k', '3', 'K', '-', 'B', '_', '5', '9',
  'r', 'W', '-', 'p', 'g']

/-- Sessions that sign `s1` as HMAC-SHA256 does. -/
def signingSessions : SessionManager :=
  { countingSessions with sign := fun _ _ => String.ofList s1Signature }

theorem isDigest_signing (value : String) :
    IsDigest (signingSessions.sign value signingSessions.secret) := by
  constructor
  · show (String.ofList s1Signature).toList.length = 43
    rw [String.toList_ofList]
    decide
  · show ∀ c ∈ (String.ofList s1Signature).toList, _
    rw [String.toList_ofList]
    have hall : (s1Signature.all fun c => c.isAlphanum || c = '-' || c = '_') = true := by
      decide +kernel
    intro c hc
    simpa [or_assoc] using List.all_eq_true.mp hall c hc

/-- The signed value of `s1` is verified. -/
theorem signed_values_verified_s1 :
    signingSessions.verifySigned (some (signingSessions.signedValue "s1")) = .ok (some "s1") :=
  (signed_values_verified signingSessions isDigest_signing).2 "s1" (by decide)

/-- A cookie with a letter in front of its dot and 43 accented ones behind it. -/
def accentedCookie : String :=
  "__Host-xygo-session=a." ++ String.ofList (List.replicate 43 'é')

set_option maxRecDepth 4000 in
theorem cookieValue_accented : cookieValue (some accentedCookie) "__Host-xygo-session" =
    some ("a" ++ "." ++ String.ofList (List.replicate 43 'é')) := by
  decide +kernel

set_option maxRecDepth 4000 in
theorem accentedCookie_latin : ∀ c ∈ accentedCookie.toList, c.toNat < 256 := by
  have hall : (accentedCookie.toList.all fun c => c.toNat < 256) = true := by decide +kernel
  intro c hc
  exact of_decide_eq_true (List.all_eq_true.mp hall c hc)

/-- A cookie of Latin-1 makes the check throw.
SOURCE: apps/web/src/auth-session.js:37 -/
theorem accented_cookie_throws :
    ¬ ∀ cookies : String, (∀ c ∈ cookies.toList, c.toNat < 256) →
      Verified signingSessions (cookieValue (some cookies) signingSessions.cookieName) := by
  intro hall
  have hverified : Verified signingSessions
      (cookieValue (some accentedCookie) "__Host-xygo-session") :=
    hall accentedCookie accentedCookie_latin
  rw [cookieValue_accented] at hverified
  apply (verified_iff isDigest_signing _).mp hverified
  have hdot : '.' ∉ (String.ofList (List.replicate 43 'é')).toList := by
    rw [String.toList_ofList]
    decide
  have hunits : utf16Length (String.ofList (List.replicate 43 'é')) = 43 := by
    rw [utf16Length, String.toList_ofList]
    decide
  have hmem : 'é' ∈ (String.ofList (List.replicate 43 'é')).toList := by
    rw [String.toList_ofList]
    decide
  refine ⟨"a", String.ofList (List.replicate 43 'é'), ?_, by decide, hunits, 'é', hmem, by decide⟩
  rw [Option.getD_some]
  exact splitAtLastDot_append hdot

end Xygo.Analysis
