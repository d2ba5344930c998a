import Mathlib.Data.List.Nodup
import MessageSchema.Json.Printer
import MessageSchema.Proofs.Json.Lexemes
import MessageSchema.Proofs.Results

/-! The printer writes what the grammar allows: texts with their escapes, numbers by their digits,
and elements on a line each. -/
namespace MessageSchema.Json
open Numeral

/-! Texts. -/

theorem hexDigit_digitChar {n : Nat} (small : n < 16) : HexDigit (Nat.digitChar n) n := by
  have table : ∀ k : Fin 16,
      "0123456789abcdef".toList[k.val]? = some (Nat.digitChar k.val) := by decide
  exact .inl (table ⟨n, small⟩)

/-- A control character is told by its code point, which two digits hold. -/
theorem spelling_control {c : Char} (control : c < ' ') :
    Spelling c ['\\', 'u', '0', '0', Nat.digitChar (c.toNat / 16), Nat.digitChar (c.toNat % 16)] := by
  have small : c.toNat < 32 := control
  have high := hexDigit_digitChar (show c.toNat / 16 < 16 by omega)
  have low := hexDigit_digitChar (show c.toNat % 16 < 16 by omega)
  have code := FourDigits.mk (k := 0) (l := 0) (.inl rfl) (.inl rfl) high low
  have value : 0x1000 * 0 + 0x100 * 0 + 0x10 * (c.toNat / 16) + c.toNat % 16 = c.toNat := by omega
  rw [value] at code
  exact .unit code

theorem spelling_escaped (c : Char) : Spelling c (escaped c) := by
  unfold escaped
  split
  · exact .short (by simp [shortEscapes])
  · exact .short (by simp [shortEscapes])
  · exact .short (by simp [shortEscapes])
  · exact .short (by simp [shortEscapes])
  · exact .short (by simp [shortEscapes])
  · exact .short (by simp [shortEscapes])
  · exact .short (by simp [shortEscapes])
  · next notQuote notBackslash _ _ _ _ _ =>
    split
    · next control => exact spelling_control control
    · next printable => exact .plain (Char.not_lt.mp printable) notQuote notBackslash

theorem spelled_escaped (characters : List Char) :
    Spelled characters (characters.flatMap escaped) := by
  induction characters with
  | nil => exact .nil
  | cons c others ih =>
    rw [List.flatMap_cons]
    exact .cons (spelling_escaped c) ih

theorem textLiteral_written (s : String) : TextLiteral s (textLiteral s).toList :=
  ⟨_, spelled_escaped s.toList, toList_textLiteral s⟩

/-! Numbers. -/

theorem digitChar_of_isDigit {c : Char} (digit : c.isDigit) :
    c.toNat - '0'.toNat < 10 ∧ Nat.digitChar (c.toNat - '0'.toNat) = c := by
  have low : '0'.toNat ≤ c.toNat := (Char.isDigit_iff_toNat.mp digit).1
  have high : c.toNat ≤ '9'.toNat := (Char.isDigit_iff_toNat.mp digit).2
  have small : c.toNat - '0'.toNat < 10 := by
    simp only [Char.reduceToNat] at low high ⊢
    omega
  refine ⟨small, Char.toNat_inj.mp ?_⟩
  rw [Nat.toNat_digitChar_of_lt_ten small]
  simp only [Char.reduceToNat] at low ⊢
  omega

theorem toDigits_append {digits : List Char} (all : ∀ c ∈ digits, c.isDigit) {n : Nat}
    (positive : 0 < n) :
    Nat.toDigits 10 n ++ digits = Nat.toDigits 10 (Nat.ofDigitChars 10 digits n) := by
  induction digits generalizing n with
  | nil => simp
  | cons c others ih =>
    obtain ⟨digit, later⟩ := List.forall_mem_cons.mp all
    obtain ⟨small, char⟩ := digitChar_of_isDigit digit
    have next := Nat.toDigits_append_toDigits (by decide) positive small
    rw [Nat.toDigits_of_lt_base small, char] at next
    rw [Nat.ofDigitChars_cons, ← ih later (by omega), ← next, List.append_assoc,
      List.singleton_append]

/-- A number has one spelling, as no zeros stand in front. -/
theorem IsWhole.eq_toDigits {written : List Char} (whole : IsWhole written) :
    written = Nat.toDigits 10 (Nat.ofDigitChars 10 written 0) := by
  obtain ⟨⟨nonempty, all⟩, leading⟩ := whole
  cases written with
  | nil => contradiction
  | cons c others =>
    by_cases zero : c = '0'
    · subst zero
      rw [leading rfl]
      rfl
    · obtain ⟨digit, later⟩ := List.forall_mem_cons.mp all
      obtain ⟨small, char⟩ := digitChar_of_isDigit digit
      have positive : 0 < c.toNat - '0'.toNat := by
        by_contra none
        rw [Nat.eq_zero_of_not_pos none] at char
        exact zero char.symm
      have rest := toDigits_append later positive
      rw [Nat.toDigits_of_lt_base small, char] at rest
      rw [Nat.ofDigitChars_cons, Nat.mul_zero, Nat.zero_add, ← rest, List.singleton_append]

theorem naturalText_iff {n : Nat} {written : List Char} :
    NaturalText n written ↔ written = (writeInteger n).toList := by
  rw [writeInteger_toList, if_neg (by omega), List.nil_append, Int.natAbs_natCast]
  constructor
  · rintro ⟨whole, rfl⟩
    exact whole.eq_toDigits
  · rintro rfl
    exact ⟨isWhole_toDigits n, Nat.ofDigitChars_ten_toDigits⟩

/-! Elements. -/

theorem further_joined {gap closing : List Char} (blanks : Blanks gap) (closes : Blanks closing)
    (elements : List (List Char)) :
    Further elements (elements.flatMap (fun element => ',' :: (gap ++ element)) ++ closing) := by
  induction elements with
  | nil => exact .done closes
  | cons element others ih =>
    have more : Further (element :: others) ([] ++ ',' :: (gap ++ (element ++ _))) :=
      .more blanks_nil blanks ih
    simpa using more

theorem intercalate_cons (separator first : List Char) (others : List (List Char)) :
    List.intercalate separator (first :: others) =
      first ++ others.flatMap (separator ++ ·) := by
  induction others generalizing first with
  | nil => simp
  | cons next others ih =>
    rw [List.intercalate_cons_cons, ih, List.flatMap_cons, List.append_assoc, List.append_assoc]

/-- Elements on a line each, behind the line of the opening bracket. -/
theorem elements_lines (indentation closing : List Char) (blanks : Blanks indentation)
    (closes : Blanks closing) {elements : List (List Char)} (nonempty : elements ≠ []) :
    Elements elements
      ('\n' :: (List.intercalate [',', '\n'] (elements.map (indentation ++ ·)) ++ closing)) := by
  obtain ⟨first, others, rfl⟩ := List.exists_cons_of_ne_nil nonempty
  have line : Blanks ('\n' :: indentation) := List.forall_mem_cons.mpr ⟨by simp, blanks⟩
  have all : Elements (first :: others) ('\n' :: indentation ++ (first ++ _)) :=
    .some line (further_joined line closes others)
  simpa [intercalate_cons, List.flatMap_map] using all

theorem memberText_spaced (key : String) (value : List Char) :
    MemberText TextLiteral (key, value) ((textLiteral key).toList ++ ':' :: ' ' :: value) :=
  ⟨_, [], [' '], textLiteral_written key, blanks_nil, by simp [Blanks], rfl⟩

/-- Members that stand in the order of the forms, one for each. -/
theorem written_of_forall₂ {σ : Type} {forms : List (Form σ)} {record : σ}
    {members : List (String × List Char)} (distinct : (forms.map Form.key).Nodup)
    (each : List.Forall₂ (fun form member =>
      member.1 = form.key ∧ form.writes (form.get record) member.2) forms members) :
    Written forms record members := by
  have keys : members.map Prod.fst = forms.map Form.key := by
    rw [eq_comm, ← List.forall₂_eq_eq_eq, List.forall₂_map_left_iff, List.forall₂_map_right_iff]
    exact each.imp fun _ _ written => written.1.symm
  constructor
  · intro form known written member
    obtain ⟨other, also, key, writes⟩ := forall₂_exists_right each.flip member
    obtain rfl := List.inj_on_of_nodup_map distinct known also key
    exact writes
  · intro member inside unknown
    rw [← keys] at unknown
    exact absurd (List.mem_map_of_mem inside) unknown
  · intro form _
    rw [keys]
    exact List.nodup_iff_count_le_one.mp distinct form.key
  · intro form known missing
    rw [keys] at missing
    exact absurd (List.mem_map_of_mem known) missing

end MessageSchema.Json
