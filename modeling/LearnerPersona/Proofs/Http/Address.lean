import LearnerPersona.Http.Settings
import LearnerPersona.Proofs.Json.Document
import LearnerPersona.Proofs.Text.Segments
import Mathlib.Data.List.Basic

/-!
# Ports and addresses

A port is read within 16 bits, and however long its text is, what comes out is the number that
the text writes or nothing.  An address ends with such a text behind its last colon, so it tells
the port and the host that it has been made of, even if the host has colons of its own.
-/

namespace LearnerPersona.Http.Settings

/-! ## Reading a port -/

/-- The text is at least one decimal digit, with or without a plus sign before, and the number
is what the digits write.  There may be any number of zeros in front. -/
def Writes (text : String) (number : Nat) : Prop :=
  ∃ sign digits, text.toList = sign ++ digits ∧ (sign = [] ∨ sign = ['+']) ∧
    Json.Digits digits ∧ Nat.ofDigitChars 10 digits 0 = number

/-- Within the guard neither the product nor the sum wraps around. -/
private theorem toNat_appended {number : UInt16} {value : Nat}
    (h : number.toNat * 10 + value < UInt16.size) :
    (number * 10 + value.toUInt16).toNat = number.toNat * 10 + value := by
  have hten : (10 : UInt16).toNat = 10 := rfl
  have hfits : number.toNat * 10 + value < 65536 := h
  rw [UInt16.toNat_add, UInt16.toNat_mul, Nat.toUInt16_eq, UInt16.toNat_ofNat', hten]
  omega

theorem appendDigit?_eq_some_iff {number next : UInt16} {digit : Char} :
    appendDigit? number digit = some next ↔
      digit.isDigit ∧ next.toNat = number.toNat * 10 + (digit.toNat - '0'.toNat) := by
  rw [appendDigit?]
  by_cases hdigit : digit.isDigit = true
  · simp only [hdigit, if_true, true_and]
    split
    · next hfits => rw [Option.some.injEq, ← UInt16.toNat_inj, toNat_appended hfits, eq_comm]
    · next hfits =>
        refine iff_of_false (by simp) fun hvalue => hfits ?_
        rw [← hvalue]
        exact next.toNat_lt
  · simp [hdigit]

private theorem foldlM_appendDigit?_eq_some_iff {digits : List Char} {start port : UInt16} :
    digits.foldlM appendDigit? start = some port ↔
      (∀ digit ∈ digits, digit.isDigit) ∧ Nat.ofDigitChars 10 digits start.toNat = port.toNat := by
  induction digits generalizing start with
  | nil => simp [UInt16.toNat_inj]
  | cons digit digits ih =>
      rw [List.foldlM_cons, Option.bind_eq_bind, Option.bind_eq_some_iff, List.forall_mem_cons,
        Nat.ofDigitChars_cons, Nat.mul_comm]
      constructor
      · rintro ⟨next, hnext, hrest⟩
        obtain ⟨hdigit, hvalue⟩ := appendDigit?_eq_some_iff.mp hnext
        obtain ⟨hdigits, hport⟩ := ih.mp hrest
        exact ⟨⟨hdigit, hdigits⟩, hvalue ▸ hport⟩
      · rintro ⟨⟨hdigit, hdigits⟩, hport⟩
        -- The number does not shrink any more, so it has not left 16 bits on the way.
        have hfits : start.toNat * 10 + (digit.toNat - '0'.toNat) < UInt16.size :=
          calc
            _ ≤ Nat.ofDigitChars 10 digits _ := Json.Numeral.le_ofDigitChars digits _
            _ = port.toNat := hport
            _ < UInt16.size := port.toNat_lt
        have hnext := UInt16.toNat_ofNat_of_lt' hfits
        refine ⟨_, appendDigit?_eq_some_iff.mpr ⟨hdigit, hnext⟩, ih.mpr ⟨hdigits, ?_⟩⟩
        rw [hnext, hport]

theorem ofDigits?_eq_some_iff {digits : List Char} {port : UInt16} :
    ofDigits? digits = some port ↔
      Json.Digits digits ∧ Nat.ofDigitChars 10 digits 0 = port.toNat := by
  rw [ofDigits?, Json.Digits]
  cases digits with
  | nil => simp
  | cons digit digits =>
      rw [List.isEmpty_cons, if_neg Bool.false_ne_true, foldlM_appendDigit?_eq_some_iff,
        UInt16.toNat_zero]
      simp only [ne_eq, reduceCtorEq, not_false_eq_true, true_and]

theorem port?_eq_some_iff {text : String} {port : UInt16} :
    port? text = some port ↔ Writes text port.toNat := by
  rw [port?]
  split
  · next digits htext =>
      rw [ofDigits?_eq_some_iff]
      constructor
      · rintro ⟨hdigits, hvalue⟩
        exact ⟨['+'], digits, htext, .inr rfl, hdigits, hvalue⟩
      · rintro ⟨sign, others, hothers, rfl | rfl, hdigits, hvalue⟩
        · rw [htext, List.nil_append] at hothers
          subst hothers
          exact absurd (hdigits.2 '+' List.mem_cons_self) (by decide)
        · rw [htext] at hothers
          cases hothers
          exact ⟨hdigits, hvalue⟩
  · next hplus =>
      rw [ofDigits?_eq_some_iff]
      constructor
      · rintro ⟨hdigits, hvalue⟩
        exact ⟨[], text.toList, rfl, .inl rfl, hdigits, hvalue⟩
      · rintro ⟨sign, digits, htext, rfl | rfl, hdigits, hvalue⟩
        · rw [htext]
          exact ⟨hdigits, hvalue⟩
        · exact absurd htext (hplus digits)

private theorem writes_toString (number : Nat) : Writes (toString number) number :=
  ⟨[], Nat.toDigits 10 number, by simp [Nat.toString_eq_repr], .inl rfl,
    Json.digits_toDigits number, Nat.ofDigitChars_ten_toDigits⟩

private theorem colon_not_mem_toString (number : Nat) : ':' ∉ (toString number).toList := by
  intro hcolon
  rw [Nat.toString_eq_repr, Nat.toList_repr] at hcolon
  exact absurd ((Json.digits_toDigits number).2 ':' hcolon) (by decide)

/-! ## The address -/

/-- The text is cut at its last colon. -/
def CutsAtColon (text front back : String) : Prop :=
  text = front ++ ":" ++ back ∧ ':' ∉ back.toList

theorem CutsAtColon.unique {text front back front' back' : String}
    (h : CutsAtColon text front back) (h' : CutsAtColon text front' back') :
    front = front' ∧ back = back' := by
  obtain ⟨htext, hback⟩ := h
  obtain ⟨htext', hback'⟩ := h'
  have hchars := congrArg String.toList (htext.symm.trans htext')
  simp only [String.toList_append, List.append_assoc] at hchars
  obtain ⟨hfronts, hbacks⟩ := Text.append_cons_inj_of_not_mem hchars hback hback'
  exact ⟨String.toList_inj.mp hfronts, String.toList_inj.mp hbacks⟩

theorem cutsAtColon_address (settings : Settings) :
    CutsAtColon settings.address settings.host (toString settings.port.toNat) :=
  ⟨rfl, colon_not_mem_toString _⟩

private theorem port?_toString (port : UInt16) : port? (toString port.toNat) = some port :=
  port?_eq_some_iff.mpr (writes_toString _)

theorem address_injective : Function.Injective address := by
  intro settings settings' h
  have hcut := cutsAtColon_address settings
  rw [h] at hcut
  obtain ⟨hhost, hport⟩ := hcut.unique (cutsAtColon_address settings')
  have hports := congrArg port? hport
  rw [port?_toString, port?_toString, Option.some.injEq] at hports
  cases settings
  cases settings'
  exact congrArg₂ Settings.mk hhost hports

/-! ## The told settings -/

private theorem host_ofLookup_ne (lookup : String → Option String) :
    (ofLookup lookup).host ≠ "" := by
  rw [ofLookup]
  cases hhost : (lookup "BIND_HOST").filter (!·.isEmpty) with
  | none => simp
  | some host =>
      have hfilled := (Option.filter_eq_some_iff.mp hhost).2
      simpa using hfilled

theorem port_ofLookup_of_port? {lookup : String → Option String} {raw : String} {port : UInt16}
    (hraw : lookup "PORT" = some raw) (hport : port? raw = some port) :
    (ofLookup lookup).port = port := by
  simp [ofLookup, hraw, hport]

theorem port_ofLookup_of_none {lookup : String → Option String}
    (h : ∀ raw, lookup "PORT" = some raw → port? raw = none) :
    (ofLookup lookup).port = 8080 := by
  have hnone : (lookup "PORT").bind port? = none := Option.bind_eq_none_iff.mpr h
  rw [ofLookup, hnone, Option.getD_none]

/--
The port is the number that the variable writes, if 16 bits hold it, and 8080 if there is no
such number.  The last colon of an address has the port behind it and the host before it, which
is not empty, so no other settings have the same address.
-/
theorem address_tells_told_port (lookup : String → Option String) :
    (∀ raw number, lookup "PORT" = some raw → Writes raw number → number ≤ 65535 →
      (ofLookup lookup).port.toNat = number) ∧
    ((∀ raw number, lookup "PORT" = some raw → Writes raw number → 65535 < number) →
      (ofLookup lookup).port = 8080) ∧
    (ofLookup lookup).host ≠ "" ∧
    (∃ front back, CutsAtColon (ofLookup lookup).address front back) ∧
    (∀ front back, CutsAtColon (ofLookup lookup).address front back →
      front = (ofLookup lookup).host ∧ port? back = some (ofLookup lookup).port) ∧
    ∀ settings, settings.address = (ofLookup lookup).address → settings = ofLookup lookup := by
  refine ⟨?told, ?untold, host_ofLookup_ne lookup, ⟨_, _, cutsAtColon_address _⟩, ?cut,
    fun settings h => address_injective h⟩
  case told =>
    intro raw number hraw hwrites hfits
    have hnumber : (UInt16.ofNat number).toNat = number :=
      UInt16.toNat_ofNat_of_lt' (Nat.lt_succ_of_le hfits)
    rw [← hnumber] at hwrites
    rw [port_ofLookup_of_port? hraw (port?_eq_some_iff.mpr hwrites), hnumber]
  case untold =>
    intro hnone
    refine port_ofLookup_of_none fun raw hraw => Option.eq_none_iff_forall_ne_some.mpr ?_
    intro port hport
    have hexceeds := hnone raw _ hraw (port?_eq_some_iff.mp hport)
    exact absurd port.toNat_lt (Nat.not_lt_of_le hexceeds)
  case cut =>
    intro front back hcut
    obtain ⟨rfl, rfl⟩ := hcut.unique (cutsAtColon_address (ofLookup lookup))
    exact ⟨rfl, port?_toString _⟩

/-- Zeros in front do not count; a number that would wrap around to 80 does not either; and the
colons of a host are not the last one. -/
theorem address_tells_told_port_zeros :
    let told : String → Option String := fun key =>
      if key = "PORT" then some "+000443" else some "::1"
    let wide : String → Option String := fun _ => some "65616"
    (told "PORT" = some "+000443" ∧ Writes "+000443" 443 ∧ (ofLookup told).port.toNat = 443) ∧
      ((∀ raw number, wide "PORT" = some raw → Writes raw number → 65535 < number) ∧
        (ofLookup wide).port = 8080) ∧
      (CutsAtColon (ofLookup told).address "::1" "443" ∧
        "::1" = (ofLookup told).host ∧ port? "443" = some (ofLookup told).port) ∧
      address ⟨"::1", 443⟩ = (ofLookup told).address ∧ ⟨"::1", 443⟩ = ofLookup told := by
  intro told wide
  have hwrites : Writes "+000443" 443 :=
    ⟨['+'], "000443".toList, by decide, .inr rfl, ⟨by decide, by simp⟩, by decide⟩
  have hwide : ∀ raw number, wide "PORT" = some raw → Writes raw number → 65535 < number := by
    rintro raw number hraw ⟨sign, digits, htext, rfl | rfl, -, rfl⟩
    · obtain rfl : "65616".toList = digits := by rw [Option.some.inj hraw, htext, List.nil_append]
      decide
    · obtain rfl : "65616" = raw := Option.some.inj hraw
      simp at htext
  have hcut : CutsAtColon (ofLookup told).address "::1" "443" := ⟨by decide, by decide⟩
  have hsame : address ⟨"::1", 443⟩ = (ofLookup told).address := by decide
  obtain ⟨htold, -, -, -, hread, hunique⟩ := address_tells_told_port told
  exact ⟨⟨rfl, hwrites, htold _ _ rfl hwrites (by decide)⟩,
    ⟨hwide, (address_tells_told_port wide).2.1 hwide⟩, ⟨hcut, hread _ _ hcut⟩,
    hsame, hunique _ hsame⟩

end LearnerPersona.Http.Settings
