import Mathlib.Algebra.GroupWithZero.Nat
import Mathlib.Data.List.TakeWhile
import ReporterBlocks.Definition.SafeName

/-! # When two texts have one safe name

A safe name holds no mark that ends the code of a character, so that the code of one
character and a digit behind it may be the code of another: `"a "` and `"a\x032"` are both
known as `funca_32`.  This module says that nothing else goes wrong.

Read from the left, a safe name gives its text back wherever it is clear how far a code
goes (`nameChars_injective`).  There are two reasons why it can be.  If no digit stands behind
a character that is spelt by its code, then the code is all the digits there are
(`code_eq_of_no_digit`).  And from `U+0020` up to `U+013F` no code begins another: dropping
digits at the end of a numeral divides its number by a power of ten
(`exists_div_of_toDigits_prefix`), and a tenth of such a code is less than the least of
them (`code_eq_of_near`).
-/

namespace ReporterBlocks

/-! ## Decimal numerals -/

theorem toDigits_injective {m n : Nat} (h : Nat.toDigits 10 m = Nat.toDigits 10 n) : m = n := by
  calc m = Nat.ofDigitChars 10 (Nat.toDigits 10 m) 0 := Nat.ofDigitChars_ten_toDigits.symm
    _ = Nat.ofDigitChars 10 (Nat.toDigits 10 n) 0 := by rw [h]
    _ = n := Nat.ofDigitChars_ten_toDigits

/-- **The beginning of a numeral** is the numeral of what is left when the number is divided
by ten for each digit behind it. -/
theorem exists_div_of_toDigits_prefix {m n : Nat} (h : Nat.toDigits 10 m <+: Nat.toDigits 10 n) :
    ∃ k, m = n / 10 ^ k := by
  induction n using Nat.strongRecOn with
  | ind n ih =>
    by_cases hn : n < 10
    · -- nothing shorter than a numeral of one digit is a numeral
      have hlength := h.length_le
      rw [Nat.toDigits_of_lt_base hn, List.length_singleton] at hlength
      have hpos : 0 < (Nat.toDigits 10 m).length := Nat.length_toDigits_pos
      have hsame : Nat.toDigits 10 m = Nat.toDigits 10 n :=
        h.eq_of_length (by rw [Nat.toDigits_of_lt_base hn, List.length_singleton]; omega)
      exact ⟨0, by rw [toDigits_injective hsame, Nat.pow_zero, Nat.div_one]⟩
    · have hlast := Nat.toDigits_of_base_le (b := 10) (by decide) (Nat.not_lt.mp hn)
      rw [hlast, List.prefix_concat_iff, ← hlast] at h
      rcases h with hsame | hpre
      · exact ⟨0, by rw [toDigits_injective hsame, Nat.pow_zero, Nat.div_one]⟩
      · obtain ⟨k, hk⟩ := ih (n / 10) (by omega) hpre
        exact ⟨k + 1, by rw [hk, Nat.div_div_eq_div_mul, Nat.pow_succ, Nat.mul_comm]⟩

/-! ## Reading a safe name -/

/-- The characters of a safe name behind its start. -/
def nameChars (cs : List Char) : List Char := cs.flatMap safeChar

theorem nameChars_cons (c : Char) (cs : List Char) :
    nameChars (c :: cs) = safeChar c ++ nameChars cs :=
  List.flatMap_cons

theorem safeChar_of_alphanum {c : Char} (hc : c.isAlphanum = true) : safeChar c = [c] :=
  if_pos hc

theorem safeChar_of_not_alphanum {c : Char} (hc : c.isAlphanum = false) :
    safeChar c = '_' :: Nat.toDigits 10 c.toNat :=
  if_neg (by simp [hc])

theorem eq_of_safeName_eq {x y : String} (h : safeName x = safeName y) :
    nameChars x.toList = nameChars y.toList := by
  have hlist := congrArg String.toList h
  rwa [safeName, safeName, String.toList_ofList, String.toList_ofList,
    List.append_cancel_left_eq] at hlist

/-- **Where codes can be told, texts can.**  `P` is what is known of the texts, at whatever
place of them. -/
theorem nameChars_injective {P : List Char → Prop} (htail : ∀ c cs, P (c :: cs) → P cs)
    (hcode : ∀ c d cs ds, c.isAlphanum = false → d.isAlphanum = false →
      P (c :: cs) → P (d :: ds) →
      Nat.toDigits 10 c.toNat ++ nameChars cs = Nat.toDigits 10 d.toNat ++ nameChars ds →
      Nat.toDigits 10 c.toNat = Nat.toDigits 10 d.toNat)
    {cs ds : List Char} (hcs : P cs) (hds : P ds) (h : nameChars cs = nameChars ds) : cs = ds := by
  have hfresh : ∀ c : Char, c.isAlphanum = true → c ≠ '_' := by
    rintro c hc rfl
    exact absurd hc (by decide)
  induction cs generalizing ds with
  | nil =>
    cases ds with
    | nil => rfl
    | cons d ds =>
      rw [nameChars_cons, safeChar] at h
      split at h <;> cases h
  | cons c cs ih =>
    cases ds with
    | nil =>
      rw [nameChars_cons, safeChar] at h
      split at h <;> cases h
    | cons d ds =>
      rw [nameChars_cons, nameChars_cons] at h
      cases hc : c.isAlphanum <;> cases hd : d.isAlphanum
      · rw [safeChar_of_not_alphanum hc, safeChar_of_not_alphanum hd, List.cons_append,
          List.cons_append] at h
        have hdigits := hcode c d cs ds hc hd hcs hds (List.tail_eq_of_cons_eq h)
        rw [hdigits, List.cons.injEq, List.append_cancel_left_eq] at h
        rw [Char.toNat_inj.mp (toDigits_injective hdigits),
          ih (htail c cs hcs) (htail d ds hds) h.2]
      · -- an underscore is no letter and no digit
        rw [safeChar_of_not_alphanum hc, safeChar_of_alphanum hd] at h
        exact absurd (List.head_eq_of_cons_eq h).symm (hfresh d hd)
      · rw [safeChar_of_alphanum hc, safeChar_of_not_alphanum hd] at h
        exact absurd (List.head_eq_of_cons_eq h) (hfresh c hc)
      · rw [safeChar_of_alphanum hc, safeChar_of_alphanum hd, List.singleton_append,
          List.singleton_append, List.cons.injEq] at h
        rw [h.1, ih (htail c cs hcs) (htail d ds hds) h.2]

/-! ## No digit behind a code -/

/-- A digit stands directly behind a character that is no ASCII letter or digit. -/
def DigitBehindCode (cs : List Char) : Prop :=
  ∃ c d, [c, d] <:+: cs ∧ c.isAlphanum = false ∧ d.isDigit = true

theorem DigitBehindCode.cons {cs : List Char} (h : DigitBehindCode cs) (c : Char) :
    DigitBehindCode (c :: cs) := by
  obtain ⟨d, e, hinfix, hd, he⟩ := h
  exact ⟨d, e, hinfix.trans (List.suffix_cons c cs).isInfix, hd, he⟩

/-- Where no digit stands behind a code, all the digits there are belong to it. -/
theorem takeWhile_digits {c : Char} {cs : List Char} (hc : c.isAlphanum = false)
    (h : ¬ DigitBehindCode (c :: cs)) :
    (Nat.toDigits 10 c.toNat ++ nameChars cs).takeWhile Char.isDigit = Nat.toDigits 10 c.toNat := by
  have hdigits : ∀ d ∈ Nat.toDigits 10 c.toNat, d.isDigit = true :=
    fun d hd => Nat.isDigit_of_mem_toDigits (by decide) (by decide) hd
  have hnext : (nameChars cs).takeWhile Char.isDigit = [] := by
    cases cs with
    | nil => rfl
    | cons d ds =>
      rw [nameChars_cons]
      cases hd : d.isAlphanum with
      | false =>
        rw [safeChar_of_not_alphanum hd]
        rfl
      | true =>
        -- a letter, since a digit would stand behind the code
        have hletter : d.isDigit = false := by
          by_contra hdigit
          rw [Bool.not_eq_false] at hdigit
          exact h ⟨c, d, ⟨[], ds, rfl⟩, hc, hdigit⟩
        rw [safeChar_of_alphanum hd, List.singleton_append, List.takeWhile_cons, hletter]
        rfl
  rw [List.takeWhile_append_of_pos hdigits, hnext, List.append_nil]

theorem code_eq_of_no_digit {c d : Char} {cs ds : List Char} (hc : c.isAlphanum = false)
    (hd : d.isAlphanum = false) (hcs : ¬ DigitBehindCode (c :: cs))
    (hds : ¬ DigitBehindCode (d :: ds))
    (h : Nat.toDigits 10 c.toNat ++ nameChars cs = Nat.toDigits 10 d.toNat ++ nameChars ds) :
    Nat.toDigits 10 c.toNat = Nat.toDigits 10 d.toNat := by
  rw [← takeWhile_digits hc hcs, h, takeWhile_digits hd hds]

/-! ## Codes that do not begin one another -/

/-- A character from `U+0020` up to `U+013F`, among them all printable ones of Latin-1. -/
def IsNear (c : Char) : Prop := 0x20 ≤ c.toNat ∧ c.toNat ≤ 0x13f

theorem eq_of_prefixed_code {c d : Char} (hc : IsNear c) (hd : IsNear d)
    (h : Nat.toDigits 10 c.toNat <+: Nat.toDigits 10 d.toNat) :
    Nat.toDigits 10 c.toNat = Nat.toDigits 10 d.toNat := by
  obtain ⟨k, hk⟩ := exists_div_of_toDigits_prefix h
  cases k with
  | zero => rw [hk, Nat.pow_zero, Nat.div_one]
  | succ k =>
    -- the code would be at most a tenth of the other one, and that is too little
    have hle : c.toNat ≤ d.toNat / 10 := by
      rw [hk]
      exact Nat.div_le_div_left (Nat.le_self_pow (Nat.succ_ne_zero k) 10) (by decide)
    obtain ⟨hlow, -⟩ := hc
    obtain ⟨-, hhigh⟩ := hd
    omega

theorem code_eq_of_near {c d : Char} {cs ds : List Char} (hc : IsNear c) (hd : IsNear d)
    (h : Nat.toDigits 10 c.toNat ++ nameChars cs = Nat.toDigits 10 d.toNat ++ nameChars ds) :
    Nat.toDigits 10 c.toNat = Nat.toDigits 10 d.toNat := by
  rcases List.prefix_or_prefix_of_prefix ⟨_, rfl⟩ ⟨_, h.symm⟩ with hpre | hpre
  · exact eq_of_prefixed_code hc hd hpre
  · exact (eq_of_prefixed_code hd hc hpre).symm

/-! ## Texts of one name -/

theorem eq_of_no_digit {x y : String} (hx : ¬ DigitBehindCode x.toList)
    (hy : ¬ DigitBehindCode y.toList) (h : safeName x = safeName y) : x = y := by
  refine String.toList_injective (nameChars_injective (P := fun cs => ¬ DigitBehindCode cs) ?_ ?_
    hx hy (eq_of_safeName_eq h))
  · intro c cs hcs hdigit
    exact hcs (hdigit.cons c)
  · intro c d cs ds hc hd hcs hds
    exact code_eq_of_no_digit hc hd hcs hds

theorem eq_of_near {x y : String} (hx : ∀ c ∈ x.toList, IsNear c)
    (hy : ∀ c ∈ y.toList, IsNear c) (h : safeName x = safeName y) : x = y := by
  refine String.toList_injective (nameChars_injective (P := fun cs => ∀ c ∈ cs, IsNear c) ?_ ?_
    hx hy (eq_of_safeName_eq h))
  · intro c cs hcs
    exact (List.forall_mem_cons.mp hcs).2
  · intro c d cs ds _ _ hcs hds
    exact code_eq_of_near (List.forall_mem_cons.mp hcs).1 (List.forall_mem_cons.mp hds).1

/-- **Two texts with one safe name**: in one of them a digit stands directly behind a
character that is spelt by its code, and one of them holds a character outside `U+0020` to
`U+013F`.  So names are told apart among texts in which no digit stands there, and among
all texts of such characters, whatever digits they hold. -/
theorem safeName_collisions (x y : String) (h : safeName x = safeName y) :
    (x ≠ y →
      (DigitBehindCode x.toList ∨ DigitBehindCode y.toList) ∧
      ((∃ c ∈ x.toList, ¬ IsNear c) ∨ ∃ c ∈ y.toList, ¬ IsNear c)) ∧
    (¬ DigitBehindCode x.toList → ¬ DigitBehindCode y.toList → x = y) ∧
    ((∀ c ∈ x.toList, IsNear c) → (∀ c ∈ y.toList, IsNear c) → x = y) := by
  refine ⟨?_, fun hx hy => eq_of_no_digit hx hy h, fun hx hy => eq_of_near hx hy h⟩
  intro hne
  constructor
  · by_contra hnone
    rw [not_or] at hnone
    exact hne (eq_of_no_digit hnone.1 hnone.2 h)
  · by_contra hnone
    simp only [not_or, not_exists, not_and, not_not] at hnone
    exact hne (eq_of_near hnone.1 hnone.2 h)

/-- A space, whose code is 32, and the character of code 3 with the digit 2 behind it. -/
theorem safeName_collisions_space :
    let x := "a "
    let y := "a\x032"
    safeName x = safeName y ∧ x ≠ y ∧
      (DigitBehindCode x.toList ∨ DigitBehindCode y.toList) ∧
      ((∃ c ∈ x.toList, ¬ IsNear c) ∨ ∃ c ∈ y.toList, ¬ IsNear c) := by
  intro x y
  have hsame : safeName x = safeName y := by decide +kernel
  have hne : x ≠ y := by decide
  exact ⟨hsame, hne, (safeName_collisions x y hsame).1 hne⟩

end ReporterBlocks
