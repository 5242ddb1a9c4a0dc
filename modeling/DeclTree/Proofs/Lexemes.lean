import DeclTree.Json.Reader
import DeclTree.Json.Writer

/-!
# What is written for a scalar is one lexeme

A text leads with a lexeme when reading it gives that lexeme and what follows it
(`Lexeme.Leads`). A string is written between quotes, each character as itself or as an escape
that stands for it (`charOnto_cases`), so the closing quote is the first one that is not escaped
and the inside means the string again. An integer of 64 bits is written with the digits that make
it up; what follows must not carry the number on (`EndsNumber`). None of these texts has a line
break.
-/

namespace DeclTree

/-- An integer of 64 bits, with a sign or without. -/
def Number.IsWord : Number → Prop
  | .int n => -(Word.half : Int) ≤ n ∧ n < Word.size
  | .float _ => False

instance : (n : Number) → Decidable n.IsWord
  | .int _ => inferInstanceAs (Decidable (_ ∧ _))
  | .float _ => isFalse id

namespace Json

open Lexeme

/-- The text starts with a lexeme and goes on with `rest`. -/
def Lexeme.Leads (x : Lexeme) (cs rest : List Char) : Prop :=
  ∃ c r, cs = c :: r ∧ isBlank c = false ∧ next? c r = some (x, rest) ∧ rest.length ≤ r.length

/-! ### Strings -/

/-- A character is written as an escape letter that stands for it, as two hexadecimal digits, or
as itself. -/
theorem charOnto_cases (c : Char) :
    (∃ e, escaped? e = some c ∧ ∀ rest, charOnto c rest = '\\' :: e :: rest) ∨
    (c.toNat < 0x20 ∧ ∀ rest, charOnto c rest =
      '\\' :: 'u' :: '0' :: '0' :: hexChar (c.toNat / 16) :: hexChar (c.toNat % 16) :: rest) ∨
    (c ≠ '"' ∧ c ≠ '\\' ∧ 0x20 ≤ c.toNat ∧ ∀ rest, charOnto c rest = c :: rest) := by
  by_cases hletter : c ∈ ['"', '\\', '\x08', '\x0c', '\n', '\r', '\t']
  · refine .inl ?_
    simp only [List.mem_cons, List.not_mem_nil, or_false] at hletter
    rcases hletter with rfl | rfl | rfl | rfl | rfl | rfl | rfl
    · exact ⟨'"', rfl, fun _ => rfl⟩
    · exact ⟨'\\', rfl, fun _ => rfl⟩
    · exact ⟨'b', rfl, fun _ => rfl⟩
    · exact ⟨'f', rfl, fun _ => rfl⟩
    · exact ⟨'n', rfl, fun _ => rfl⟩
    · exact ⟨'r', rfl, fun _ => rfl⟩
    · exact ⟨'t', rfl, fun _ => rfl⟩
  · simp only [List.mem_cons, List.not_mem_nil, or_false, not_or] at hletter
    have hwritten : ∀ rest, charOnto c rest = if c.toNat < 0x20 then
        '\\' :: 'u' :: '0' :: '0' :: hexChar (c.toNat / 16) :: hexChar (c.toNat % 16) :: rest
        else c :: rest := by
      intro rest
      unfold charOnto
      split <;> simp_all
    by_cases hcontrol : c.toNat < 0x20
    · refine .inr (.inl ⟨hcontrol, fun rest => ?_⟩)
      rw [hwritten, if_pos hcontrol]
    · refine .inr (.inr ⟨hletter.1, hletter.2.1, by omega, fun rest => ?_⟩)
      rw [hwritten, if_neg hcontrol]

theorem charOnto_eq_append (c : Char) (rest : List Char) :
    charOnto c rest = charOnto c [] ++ rest := by
  rcases charOnto_cases c with ⟨e, _, h⟩ | ⟨_, h⟩ | ⟨_, _, _, h⟩ <;>
    simp only [h, List.cons_append, List.nil_append]

theorem length_lt_charOnto (c : Char) (rest : List Char) :
    rest.length < (charOnto c rest).length := by
  rcases charOnto_cases c with ⟨e, _, h⟩ | ⟨_, h⟩ | ⟨_, _, _, h⟩ <;> rw [h] <;>
    simp only [List.length_cons] <;> omega

theorem untilQuote?_plain {c : Char} (hquote : c ≠ '"') (hescape : c ≠ '\\')
    (acc rest : List Char) : untilQuote? acc (c :: rest) = untilQuote? (c :: acc) rest := by
  rw [untilQuote?.eq_def]
  split <;> simp_all

theorem hexChar_ne {n : Nat} (h : n < 16) : hexChar n ≠ '"' ∧ hexChar n ≠ '\\' := by
  have hall : ∀ n < 16, hexChar n ≠ '"' ∧ hexChar n ≠ '\\' := by decide
  exact hall n h

theorem untilQuote?_charOnto (c : Char) (acc rest : List Char) :
    untilQuote? acc (charOnto c rest) = untilQuote? ((charOnto c []).reverse ++ acc) rest := by
  rcases charOnto_cases c with ⟨e, he, h⟩ | ⟨hcontrol, h⟩ | ⟨hquote, hescape, _, h⟩
  · simp [h, untilQuote?]
  · have hhigh := hexChar_ne (n := c.toNat / 16) (by omega)
    have hlow := hexChar_ne (n := c.toNat % 16) (by omega)
    simp [h, untilQuote?, untilQuote?_plain, hhigh, hlow]
  · simp [h, untilQuote?_plain hquote hescape]

/-- The closing quote is the first one that is not escaped. -/
theorem untilQuote?_written (s acc rest : List Char) :
    untilQuote? acc (s.foldr charOnto ('"' :: rest)) =
      some (acc.reverse ++ s.foldr charOnto [], rest) := by
  induction s generalizing acc with
  | nil => simp [untilQuote?]
  | cons c s ih =>
    rw [List.foldr_cons, untilQuote?_charOnto, ih, List.foldr_cons,
      charOnto_eq_append c (List.foldr ..)]
    simp

theorem unicode?_hexChar {n : Nat} (h : n < 0x20) (rest : List Char) :
    unicode? ('0' :: '0' :: hexChar (n / 16) :: hexChar (n % 16) :: rest) =
      some (Char.ofNat n, rest) := by
  have hall : ∀ n < 0x20,
      Text.hexValue? ['0', '0', hexChar (n / 16), hexChar (n % 16)] = some n := by decide
  have hsmall : ¬ 0xD800 ≤ n := by omega
  have hsmaller : ¬ 0xDC00 ≤ n := by omega
  simp [unicode?, unit?, hall n h, hsmall, hsmaller]

theorem unescape?_charOnto (c : Char) (steps : Nat) (acc rest : List Char) :
    unescape? (steps + 1) acc (charOnto c rest) = unescape? steps (c :: acc) rest := by
  rcases charOnto_cases c with ⟨e, he, h⟩ | ⟨hcontrol, h⟩ | ⟨hquote, hescape, hprintable, h⟩
  · have hu : e ≠ 'u' := by
      rintro rfl
      cases he
    rw [h, unescape?, he]
    · exact hu
  · rw [h, unescape?, unicode?_hexChar hcontrol, Char.ofNat_toNat]
  · rw [h, unescape?, if_neg (by omega)]
    · exact fun _ hc => absurd hc hescape
    · exact fun hc => absurd hc hescape
    · exact fun _ _ hc => absurd hc hescape

theorem unescape?_written (s acc : List Char) {steps : Nat} (h : s.length ≤ steps) :
    unescape? steps acc (s.foldr charOnto []) = some (acc.reverse ++ s) := by
  induction s generalizing acc steps with
  | nil => cases steps <;> simp [unescape?]
  | cons c s ih =>
    cases steps with
    | zero => cases h
    | succ steps =>
      rw [List.foldr_cons, unescape?_charOnto, ih _ (Nat.le_of_succ_le_succ h)]
      simp

theorem length_le_written (s rest : List Char) :
    s.length + rest.length ≤ (s.foldr charOnto rest).length := by
  induction s with
  | nil => simp
  | cons c s ih =>
    have hc := length_lt_charOnto c (s.foldr charOnto rest)
    rw [List.foldr_cons, List.length_cons]
    omega

theorem string?_written (s : String) (rest : List Char) :
    Lexeme.string? (s.toList.foldr charOnto ('"' :: rest)) = some (s, rest) := by
  have hlength := length_le_written s.toList []
  rw [Lexeme.string?, untilQuote?_written]
  simp only [List.reverse_nil, List.nil_append]
  rw [unescape?_written _ _ (by simpa using hlength)]
  simp

theorem leads_string (s : String) (rest : List Char) :
    (Lexeme.scalar (.string s)).Leads (stringOnto s rest) rest := by
  refine ⟨'"', s.toList.foldr charOnto ('"' :: rest), rfl, rfl, ?_, ?_⟩
  · simp only [next?, string?_written, Option.map_some]
  · have hlength := length_le_written s.toList ('"' :: rest)
    simp only [List.length_cons] at hlength
    omega

/-! ### Integers -/

/-- A text that does not carry on a number before it. -/
def EndsNumber (rest : List Char) : Prop :=
  ∀ c ∈ rest.head?, c.isDigit = false ∧ c ≠ '.' ∧ c ≠ 'e' ∧ c ≠ 'E'

/-- The digits of a number, the leading one first. -/
def decimal (n : Nat) : List Nat := (Nat.toDigits 10 n).map fun c => c.toNat - '0'.toNat

theorem natOf_digits (cs : List Char) :
    natOf (cs.map fun c => c.toNat - '0'.toNat) = Nat.ofDigitChars 10 cs 0 := by
  rw [natOf, List.foldl_map, Nat.ofDigitChars]
  simp only [Nat.mul_comm]

theorem natOf_decimal (n : Nat) : natOf (decimal n) = n := by
  rw [decimal, natOf_digits, Nat.ofDigitChars_toDigits (by omega) (by omega)]

theorem isDigit_toDigits (n : Nat) : ∀ c ∈ Nat.toDigits 10 n, c.isDigit = true :=
  fun _ hc => Nat.isDigit_of_mem_toDigits (by omega) (by omega) hc

theorem digits_toDigits (n : Nat) {rest : List Char} (h : EndsNumber rest) :
    digits (Nat.toDigits 10 n ++ rest) = (decimal n, rest) := by
  have hrest : rest.takeWhile Char.isDigit = [] ∧ rest.dropWhile Char.isDigit = rest := by
    cases rest with
    | nil => exact ⟨rfl, rfl⟩
    | cons c tail => simp [(h c rfl).1]
  rw [digits, List.takeWhile_append_of_pos (isDigit_toDigits n),
    List.dropWhile_append_of_pos (isDigit_toDigits n), hrest.1, hrest.2, List.append_nil, decimal]

/-- There is no leading zero. -/
theorem head_decimal {n : Nat} (h : 0 < n) : ∃ d ds, decimal n = d :: ds ∧ d ≠ 0 := by
  induction n using Nat.strongRecOn with
  | ind n ih =>
    by_cases hsmall : n < 10
    · have hall : ∀ n < 10, 0 < n → (Nat.digitChar n).toNat - '0'.toNat ≠ 0 := by decide
      refine ⟨_, [], ?_, hall n hsmall h⟩
      rw [decimal, Nat.toDigits_of_lt_base hsmall]
      rfl
    · obtain ⟨d, ds, hds, hd⟩ := ih (n / 10) (by omega) (by omega)
      refine ⟨d, ds ++ [(Nat.digitChar (n % 10)).toNat - '0'.toNat], ?_, hd⟩
      rw [decimal, Nat.toDigits_of_base_le (by omega) (by omega), List.map_append]
      exact congrArg (· ++ _) hds

theorem number?_toDigits (negative : Bool) (n : Nat) {rest : List Char} (h : EndsNumber rest) :
    number? negative (Nat.toDigits 10 n ++ rest) =
      (integer? negative (decimal n)).map (·, rest) := by
  have hfraction : fraction? rest = some (none, rest) := by
    cases rest with
    | nil => rfl
    | cons c tail =>
      rw [fraction?.eq_def]
      split <;> simp_all [EndsNumber]
  have hexponent : exponent? rest = some (none, rest) := by
    cases rest with
    | nil => rfl
    | cons c tail => simp [exponent?, (h c rfl).2.2]
  have hlead : ∀ d ds, decimal n ≠ 0 :: d :: ds := by
    intro d ds hds
    rcases Nat.eq_zero_or_pos n with rfl | hpos
    · cases hds
    · obtain ⟨lead, more, hmore, hlead⟩ := head_decimal hpos
      exact hlead (List.cons.inj (hmore.symm.trans hds)).1
  have hne : decimal n ≠ [] := by
    rw [decimal, Ne, List.map_eq_nil_iff]
    exact Nat.toDigits_ne_nil
  rw [number?, digits_toDigits n h]
  dsimp only
  split
  · exact absurd ‹_› hne
  · exact absurd ‹_› (hlead _ _)
  · simp only [hfraction, hexponent, Option.bind_eq_bind, Option.bind_some]
    cases integer? negative (decimal n) <;> rfl

theorem next?_digit {c : Char} (h : c.isDigit = true) (rest : List Char) :
    next? c rest = (number? false (c :: rest)).map fun (n, r) => (.scalar (.number n), r) := by
  unfold next?
  split <;> first
    | exact absurd h (by decide)
    | rw [if_pos h]

/-- A natural number leads with its digits. -/
theorem leads_digits {n : Nat} (hn : n < Word.size) {rest : List Char} (h : EndsNumber rest) :
    (Lexeme.scalar (.number (.int n))).Leads (Nat.toDigits 10 n ++ rest) rest := by
  have hinteger : integer? false (decimal n) = some (.int n) := by
    simp [integer?, natOf_decimal, hn]
  have hnumber := number?_toDigits false n h
  rw [hinteger] at hnumber
  cases hdigits : Nat.toDigits 10 n with
  | nil => exact absurd hdigits Nat.toDigits_ne_nil
  | cons c r =>
    have hc : c.isDigit = true := isDigit_toDigits n c (hdigits ▸ List.mem_cons_self)
    rw [hdigits, List.cons_append] at hnumber
    refine ⟨c, r ++ rest, rfl, ?_, ?_, ?_⟩
    · simp only [isBlank, Bool.or_eq_false_iff, beq_eq_false_iff_ne]
      refine ⟨⟨⟨?_, ?_⟩, ?_⟩, ?_⟩ <;> rintro rfl <;> exact absurd hc (by decide)
    · rw [next?_digit hc, hnumber]
      rfl
    · simp

theorem leads_negative {n : Nat} (hpos : 0 < n) (hn : n ≤ Word.half) {rest : List Char}
    (h : EndsNumber rest) :
    (Lexeme.scalar (.number (.int (-n)))).Leads ('-' :: (Nat.toDigits 10 n ++ rest)) rest := by
  have hinteger : integer? true (decimal n) = some (.int (-n)) := by
    simp [integer?, natOf_decimal, hn, hpos]
  refine ⟨'-', Nat.toDigits 10 n ++ rest, rfl, rfl, ?_, by simp⟩
  simp only [next?, number?_toDigits true n h, hinteger, Option.map_some]

theorem text_ofNat (n : Nat) : (Number.int (Int.ofNat n)).text.toList = Nat.toDigits 10 n :=
  Nat.toList_repr

theorem text_negSucc (n : Nat) :
    (Number.int (Int.negSucc n)).text.toList = '-' :: Nat.toDigits 10 (n + 1) := by
  have hrepr : (Number.int (Int.negSucc n)).text = "-" ++ (n + 1).repr := rfl
  rw [hrepr, String.toList_append, Nat.toList_repr]
  rfl

theorem leads_number {n : Number} (hn : n.IsWord) {rest : List Char} (h : EndsNumber rest) :
    (Lexeme.scalar (.number n)).Leads (wordOnto n.text rest) rest := by
  cases n with
  | float x => exact hn.elim
  | int n =>
    obtain ⟨hlow, hhigh⟩ := hn
    cases n with
    | ofNat n =>
      rw [wordOnto, text_ofNat]
      exact leads_digits (Int.ofNat_lt.mp hhigh) h
    | negSucc n =>
      rw [wordOnto, text_negSucc, Int.negSucc_eq]
      exact leads_negative (Nat.succ_pos n) (by omega) h

/-- A value that is neither an array nor an object is written as one lexeme. -/
theorem leads_scalar {v : Json} (hv : v.isScalar = true) (hn : ∀ n, v = .number n → n.IsWord)
    {rest : List Char} (h : EndsNumber rest) :
    (Lexeme.scalar v).Leads (compactOnto v rest) rest := by
  have hword : ∀ tail : List Char, rest.length ≤ (tail ++ rest).length := by simp
  cases v with
  | null => exact ⟨'n', _, rfl, rfl, rfl, hword "ull".toList⟩
  | bool b =>
    cases b with
    | true => exact ⟨'t', _, rfl, rfl, rfl, hword "rue".toList⟩
    | false => exact ⟨'f', _, rfl, rfl, rfl, hword "alse".toList⟩
  | number n => exact leads_number (hn n rfl) h
  | string s => exact leads_string s rest
  | array items => cases hv
  | object fields => cases hv

/-! ### Line breaks -/

theorem newline_of_mem_charOnto {c : Char} {rest : List Char} (h : '\n' ∈ charOnto c rest) :
    '\n' ∈ rest := by
  have hhex : ∀ n < 16, '\n' ≠ hexChar n := by decide
  rcases charOnto_cases c with ⟨e, he, hc⟩ | ⟨hcontrol, hc⟩ | ⟨_, _, hprintable, hc⟩ <;>
    rw [hc] at h
  · have hne : '\n' ≠ e := by
      rintro rfl
      cases he
    simpa [hne] using h
  · simpa [hhex (c.toNat / 16) (by omega), hhex (c.toNat % 16) (by omega)] using h
  · have hne : '\n' ≠ c := by
      rintro rfl
      exact absurd hprintable (by decide)
    simpa [hne] using h

theorem newline_of_mem_stringOnto {s : String} {rest : List Char}
    (h : '\n' ∈ stringOnto s rest) : '\n' ∈ rest := by
  have hinside : ∀ (cs tail : List Char), '\n' ∈ cs.foldr charOnto tail → '\n' ∈ tail := by
    intro cs tail
    induction cs with
    | nil => exact id
    | cons c cs ih => exact fun h => ih (newline_of_mem_charOnto h)
  have hquoted : '\n' ∈ s.toList.foldr charOnto ('"' :: rest) := by simpa [stringOnto] using h
  simpa using hinside _ _ hquoted

theorem newline_notMem_text {n : Number} (hn : n.IsWord) : '\n' ∉ n.text.toList := by
  have hdigits : ∀ m : Nat, '\n' ∉ Nat.toDigits 10 m :=
    fun m h => absurd (isDigit_toDigits m _ h) (by decide)
  cases n with
  | float x => exact hn.elim
  | int n =>
    cases n with
    | ofNat n =>
      rw [text_ofNat]
      exact hdigits n
    | negSucc n =>
      rw [text_negSucc]
      simpa using hdigits (n + 1)

end Json

end DeclTree
