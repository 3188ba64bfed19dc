import FlowPeers.Json.Reader
import FlowPeers.Proofs.Literals
import Mathlib.Data.List.TakeWhile

/-!
# The tokens of a written text

A text that is written is cut into the tokens that were written. A text has a token in front
(`Json.Token.Heads`) if it is cut into this token and what the rest is cut into.

* A text between its quotes is one token, whatever characters it has (`Json.Token.heads_printText`),
  and it is read back from what stands there (`Json.readString?_flatMap`). For each character there
  stands a letter after a backslash, a number, or the character itself (`Json.IsEscape`).
* A number or a word is one token if it ends in front of what cannot belong to it
  (`Json.Token.IsCut`, `Json.heads_of_isNumber`, `Json.Token.heads_word`).
-/

namespace FlowPeers.Json

open Text

/-! ## Strings -/

/-- What stands for a character in a string: a letter after a backslash, the number of a control
character, or the character itself. -/
inductive IsEscape (c : Char) : List Char → Prop
  | letter {letter : Char} (hmem : letter ∈ ['"', '\\', 'b', 'f', 'n', 'r', 't'])
      (hescaped : escaped letter = c) : IsEscape c ['\\', letter]
  | control (hcontrol : c.toNat < 0x20) :
      IsEscape c ['\\', 'u', '0', '0', lowerHexDigit (c.toNat / 16), lowerHexDigit (c.toNat % 16)]
  | plain (hquote : c ≠ '"') (hbackslash : c ≠ '\\') (hcontrol : ¬ c.toNat < 0x20) : IsEscape c [c]

theorem isEscape_escapeChar (c : Char) : IsEscape c (escapeChar c) := by
  rw [escapeChar]
  have hletter : ∀ {letter special : Char}, letter ∈ ['"', '\\', 'b', 'f', 'n', 'r', 't'] →
      escaped letter = special → (c == special) = true → IsEscape c ['\\', letter] := by
    intro letter special hmem hescaped heq
    exact .letter hmem (hescaped.trans (beq_iff_eq.1 heq).symm)
  split
  · next h => exact hletter (by decide) rfl h
  split
  · next h => exact hletter (by decide) rfl h
  split
  · next h => exact hletter (by decide) rfl h
  split
  · next h => exact hletter (by decide) rfl h
  split
  · next h => exact hletter (by decide) rfl h
  split
  · next h => exact hletter (by decide) rfl h
  split
  · next h => exact hletter (by decide) rfl h
  split
  · next h => exact .control h
  · next hquote hbackslash _ _ _ _ _ hcontrol =>
    exact .plain (by simpa using hquote) (by simpa using hbackslash) hcontrol

/-- The number of a control character is read back from its last two digits. -/
theorem unit?_control : ∀ n < 0x20, unit? (some '0') (some '0')
    (some (lowerHexDigit (n / 16))) (some (lowerHexDigit (n % 16))) = some n := by
  decide

/-- A character is read back from what stands for it in a string. -/
theorem readString?_append {c : Char} {escape : List Char} (h : IsEscape c escape)
    (rest : List (Option Char)) :
    readString? (escape.map some ++ rest) = (readString? rest).map (c :: ·) := by
  cases h with
  | @letter letter hmem hescaped =>
    have hu : letter ≠ 'u' := by
      rintro rfl
      exact absurd hmem (by decide)
    simp only [List.map_cons, List.map_nil, List.cons_append, List.nil_append]
    rw [readString?.eq_def]
    simp [hu, hescaped]
  | control hcontrol =>
    have hhigh : isHighHalf c.toNat = false := by
      simp [isHighHalf]
      omega
    have hlow : isLowHalf c.toNat = false := by
      simp [isLowHalf]
      omega
    simp only [List.map_cons, List.map_nil, List.cons_append, List.nil_append]
    rw [readString?, unit?_control _ hcontrol]
    simp [hhigh, hlow, Char.ofNat_toNat]
  | plain hquote hbackslash hcontrol =>
    simp only [List.map_cons, List.map_nil, List.cons_append, List.nil_append]
    rw [readString?.eq_def]
    simp [hbackslash]

/-- A text is read back from what stands for it in a string. -/
theorem readString?_flatMap (s : List Char) :
    readString? ((s.flatMap escapeChar).map some) = some s := by
  induction s with
  | nil => rfl
  | cons c rest ih =>
    rw [List.flatMap_cons, List.map_append, readString?_append (isEscape_escapeChar c), ih]
    rfl

/-! ## Tokens -/

namespace Token

/-- Whether a text has a token in front of a rest: it is cut into this token and what the rest is cut
into. -/
def Heads (token : Token) (text rest : List (Option Char)) : Prop :=
  scan? .between text = (scan? .between rest).map (token :: ·)

/-- Whether a number or a word ends in front of a text. -/
def IsCut (rest : List (Option Char)) : Prop :=
  ∀ c ∈ rest.head?, c.any isNumberChar = false ∧ c.any Char.isLower = false

theorem isCut_nil : IsCut [] := by
  simp [IsCut]

theorem isCut_cons {c : Char} (hnumber : isNumberChar c = false) (hlower : c.isLower = false)
    (rest : List (Option Char)) : IsCut (some c :: rest) := by
  simp [IsCut, hnumber, hlower]

/-- A character that gives a token by itself. -/
theorem heads_of_begin? {c : Char} {token : Token} (h : begin? c = some (some token, .between))
    (rest : List (Option Char)) : Heads token (some c :: rest) rest := by
  rw [Heads, scan?]
  simp only [step?, Option.bind_some, h, Option.toList_some, List.singleton_append]
  cases scan? .between rest <;> rfl

/-- The machine goes on as it does after one character that ends nothing. -/
theorem scan?_cons_of_step? {mode mode' : Mode} {c : Option Char}
    (h : step? mode c = some ([], mode')) (rest : List (Option Char)) :
    scan? mode (c :: rest) = scan? mode' rest := by
  rw [scan?, h]
  simp only [List.nil_append]
  cases scan? mode' rest <;> rfl

/-! ### Strings -/

/-- A digit of the number of a control character is a digit. -/
theorem isSome_digitValue?_lowerHexDigit : ∀ n < 16, (digitValue? 16 (lowerHexDigit n)).isSome := by
  decide

/-- What stands for a character does not end a string. -/
theorem scan?_string_append {c : Char} {escape : List Char} (h : IsEscape c escape)
    (read rest : List (Option Char)) :
    scan? (.string read) (escape.map some ++ rest) =
      scan? (.string ((escape.map some).reverse ++ read)) rest := by
  cases h with
  | @letter letter hmem hescaped =>
    have hescape : step? (.escape (some '\\' :: read)) (some letter) =
        some ([], .string (some letter :: some '\\' :: read)) := by
      simp only [List.mem_cons, List.not_mem_nil, or_false] at hmem
      rcases hmem with rfl | rfl | rfl | rfl | rfl | rfl | rfl <;> rfl
    exact (scan?_cons_of_step? rfl _).trans (scan?_cons_of_step? hescape rest)
  | control hcontrol =>
    have hdigit : ∀ {more read n}, n < 16 → step? (.hex more read) (some (lowerHexDigit n)) =
        some ([], if more ≤ 1 then .string (some (lowerHexDigit n) :: read)
          else .hex (more - 1) (some (lowerHexDigit n) :: read)) := by
      intro more read n hn
      rw [step?, Option.any_some, if_pos (isSome_digitValue?_lowerHexDigit n hn)]
    refine (scan?_cons_of_step? rfl _).trans ?_
    refine (scan?_cons_of_step? rfl _).trans ?_
    refine (scan?_cons_of_step? rfl _).trans ?_
    refine (scan?_cons_of_step? rfl _).trans ?_
    refine (scan?_cons_of_step? (hdigit (by omega)) _).trans ?_
    exact scan?_cons_of_step? (hdigit (by omega)) rest
  | plain hquote hbackslash hcontrol =>
    refine scan?_cons_of_step? ?_ rest
    simp [step?, hquote, hbackslash, hcontrol]

theorem scan?_string_flatMap (s : List Char) (read rest : List (Option Char)) :
    scan? (.string read) ((s.flatMap escapeChar).map some ++ rest) =
      scan? (.string (((s.flatMap escapeChar).map some).reverse ++ read)) rest := by
  induction s generalizing read with
  | nil => rfl
  | cons c s ih =>
    rw [List.flatMap_cons, List.map_append, List.append_assoc,
      scan?_string_append (isEscape_escapeChar c), ih]
    simp

/-- A text between its quotes is one token. -/
theorem heads_printText (s : List Char) (rest : List (Option Char)) :
    Heads (.string ((s.flatMap escapeChar).map some)) ((printText s).map some ++ rest) rest := by
  have hend : scan? (.string ((s.flatMap escapeChar).map some).reverse) (some '"' :: rest) =
      (scan? .between rest).map (.string ((s.flatMap escapeChar).map some) :: ·) := by
    rw [scan?]
    simp only [step?, beq_self_eq_true, if_true, List.reverse_reverse, List.singleton_append]
    cases scan? .between rest <;> rfl
  have hbegin : step? .between (some '"') = some ([], .string []) := rfl
  have htext := scan?_string_flatMap s [] (some '"' :: rest)
  rw [List.append_nil] at htext
  rw [Heads, printText, List.cons_append, List.map_cons, List.cons_append,
    scan?_cons_of_step? hbegin, List.map_append, List.append_assoc]
  exact htext.trans hend

/-! ### Words and numbers -/

/-- A token that ends where nothing comes or what cannot belong to it. -/
theorem scan?_of_isEnd {mode : Mode} {token : Token} {rest : List (Option Char)}
    (hfinish : finish? mode = some [token])
    (hstep : ∀ c ∈ rest.head?, step? mode c = beginAfter? token c) :
    scan? mode rest = (scan? .between rest).map (token :: ·) := by
  cases rest with
  | nil => rw [scan?, scan?, hfinish]; rfl
  | cons c rest =>
    rw [scan?, scan?, hstep c rfl, step?, beginAfter?]
    cases c.bind begin? with
    | none => rfl
    | some next =>
      obtain ⟨token', mode'⟩ := next
      simp only
      cases scan? mode' rest <;> rfl

/-- Whether a mode collects the characters of a token, of which some class belongs to it. -/
structure Collects (mode : List Char → Mode) (token : List Char → Token) (belongs : Char → Bool) :
    Prop where
  more : ∀ (read : List Char) (c : Char), belongs c →
    step? (mode read) (some c) = some ([], mode (c :: read))
  other : ∀ (read : List Char) (c : Option Char), c.any belongs = false →
    step? (mode read) c = beginAfter? (token read.reverse) c
  finish : ∀ read : List Char, finish? (mode read) = some [token read.reverse]

theorem collects_word : Collects .word .word Char.isLower where
  more := fun read c hc => by simp [step?, hc]
  other := fun read c hc => by simp [step?, hc]
  finish := fun _ => rfl

theorem collects_number : Collects .number .number isNumberChar where
  more := fun read c hc => by simp [step?, hc]
  other := fun read c hc => by simp [step?, hc]
  finish := fun _ => rfl

namespace Collects

variable {mode : List Char → Mode} {token : List Char → Token} {belongs : Char → Bool}

theorem scan?_append (h : Collects mode token belongs) {text : List Char}
    (htext : ∀ c ∈ text, belongs c) (read : List Char) (rest : List (Option Char)) :
    scan? (mode read) (text.map some ++ rest) = scan? (mode (text.reverse ++ read)) rest := by
  induction text generalizing read with
  | nil => rfl
  | cons c text ih =>
    rw [List.forall_mem_cons] at htext
    rw [List.map_cons, List.cons_append, scan?_cons_of_step? (h.more read c htext.1), ih htext.2]
    simp

/-- Characters that belong to a token are one token if nothing behind them belongs to it. -/
theorem heads (h : Collects mode token belongs) {c : Char} {text : List Char}
    (hbegin : begin? c = some (none, mode [c])) (htext : ∀ c ∈ text, belongs c)
    {rest : List (Option Char)} (hrest : ∀ c ∈ rest.head?, c.any belongs = false) :
    Heads (token (c :: text)) ((c :: text).map some ++ rest) rest := by
  have hstep : step? .between (some c) = some ([], mode [c]) := by
    rw [step?, Option.bind_some, hbegin]
    rfl
  have hall : (text.reverse ++ [c]).reverse = c :: text := by simp
  rw [Heads, List.map_cons, List.cons_append, scan?_cons_of_step? hstep, h.scan?_append htext]
  refine scan?_of_isEnd ?_ fun next hnext => ?_
  · rw [h.finish, hall]
  · rw [h.other _ next (hrest next hnext), hall]

end Collects

/-- A word of lower-case letters is one token. -/
theorem heads_word {c : Char} {letters : List Char} (hbegin : begin? c = some (none, .word [c]))
    (hlower : ∀ c ∈ letters, c.isLower) {rest : List (Option Char)} (hrest : IsCut rest) :
    Heads (.word (c :: letters)) ((c :: letters).map some ++ rest) rest :=
  collects_word.heads hbegin hlower fun next hnext => (hrest next hnext).2

/-- The characters of a number are one token. -/
theorem heads_number {c : Char} {digits : List Char} (hbegin : begin? c = some (none, .number [c]))
    (hdigits : ∀ c ∈ digits, isNumberChar c) {rest : List (Option Char)} (hrest : IsCut rest) :
    Heads (.number (c :: digits)) ((c :: digits).map some ++ rest) rest :=
  collects_number.heads hbegin hdigits fun next hnext => (hrest next hnext).1

end Token

/-! ## What numbers consist of -/

theorem begin?_of_isDigit {c : Char} (h : c.isDigit) :
    Token.begin? c = some (none, .number [c]) := by
  have hall : ∀ n < 10, Token.begin? (Char.ofNat (48 + n)) =
      some (none, .number [Char.ofNat (48 + n)]) := by
    decide
  have hbounds : 48 ≤ c.toNat ∧ c.toNat ≤ 57 := by
    simpa [Char.isDigit, UInt32.le_iff_toNat_le] using h
  have hc := hall (c.toNat - 48) (by omega)
  rwa [Nat.add_sub_of_le hbounds.1, Char.ofNat_toNat] at hc

theorem isNumberChar_of_isDigit {c : Char} (h : c.isDigit) : Token.isNumberChar c := by
  simp [Token.isNumberChar, h]

/-- What is skipped are digits, at least one. -/
theorem exists_of_skipDigits? {s rest : List Char} (h : skipDigits? s = some rest) :
    ∃ c digits, s = c :: digits ++ rest ∧ ∀ d ∈ c :: digits, d.isDigit := by
  cases s with
  | nil => simp [skipDigits?] at h
  | cons c s =>
    rw [skipDigits?] at h
    split at h
    · next hc =>
      cases h
      refine ⟨c, s.takeWhile (·.isDigit), ?_, ?_⟩
      · rw [List.cons_append, List.takeWhile_append_dropWhile]
      · rw [List.forall_mem_cons]
        exact ⟨hc, fun d hd => List.mem_takeWhile_imp hd⟩
    · cases h

theorem forall_mem_of_skipDigits? {s rest : List Char} (h : skipDigits? s = some rest)
    (hrest : ∀ c ∈ rest, Token.isNumberChar c) : ∀ c ∈ s, Token.isNumberChar c := by
  obtain ⟨c, digits, rfl, hdigits⟩ := exists_of_skipDigits? h
  rw [List.forall_mem_append]
  exact ⟨fun d hd => isNumberChar_of_isDigit (hdigits d hd), hrest⟩

theorem forall_mem_of_isExponent {s : List Char} (h : isExponent s) :
    ∀ c ∈ s, Token.isNumberChar c := by
  cases s with
  | nil => simp
  | cons e rest =>
    simp only [isExponent, Bool.and_eq_true, Bool.or_eq_true, beq_iff_eq] at h
    obtain ⟨he, hdigits⟩ := h
    have hletter : Token.isNumberChar e := by
      rcases he with rfl | rfl <;> rfl
    rw [List.forall_mem_cons]
    refine ⟨hletter, ?_⟩
    cases rest with
    | nil => simp
    | cons c digits =>
      simp only at hdigits
      split at hdigits
      · next hsign =>
        have hc : Token.isNumberChar c := by
          rcases hsign with rfl | rfl <;> rfl
        rw [List.forall_mem_cons]
        exact ⟨hc, forall_mem_of_skipDigits? hdigits (by simp)⟩
      · exact forall_mem_of_skipDigits? hdigits (by simp)

theorem forall_mem_of_isFraction {s : List Char} (h : isFraction s) :
    ∀ c ∈ s, Token.isNumberChar c := by
  rw [isFraction.eq_def] at h
  split at h
  · next rest =>
    obtain ⟨after, hafter, hexponent⟩ := (Option.any_eq_true _ _).1 h
    rw [List.forall_mem_cons]
    exact ⟨rfl, forall_mem_of_skipDigits? hafter (forall_mem_of_isExponent hexponent)⟩
  · exact forall_mem_of_isExponent h

/-- A number without a sign begins with a digit, and what comes then may stand in a number. -/
theorem exists_of_isUnsigned {s : List Char} (h : isUnsigned s) :
    ∃ c rest, s = c :: rest ∧ c.isDigit ∧ ∀ d ∈ rest, Token.isNumberChar d := by
  rw [isUnsigned.eq_def] at h
  split at h
  · next rest => exact ⟨'0', rest, rfl, rfl, forall_mem_of_isFraction h⟩
  · obtain ⟨after, hafter, hfraction⟩ := (Option.any_eq_true _ _).1 h
    obtain ⟨c, digits, rfl, hdigits⟩ := exists_of_skipDigits? hafter
    rw [List.forall_mem_cons] at hdigits
    refine ⟨c, digits ++ after, rfl, hdigits.1, ?_⟩
    rw [List.forall_mem_append]
    exact ⟨fun d hd => isNumberChar_of_isDigit (hdigits.2 d hd), forall_mem_of_isFraction hfraction⟩

/-- A number is one token. -/
theorem heads_of_isNumber {digits : List Char} (h : isNumber digits) {rest : List (Option Char)}
    (hrest : Token.IsCut rest) : Token.Heads (.number digits) (digits.map some ++ rest) rest := by
  rw [isNumber.eq_def] at h
  split at h
  · next unsigned =>
    obtain ⟨c, rest, rfl, hc, hall⟩ := exists_of_isUnsigned h
    refine Token.heads_number rfl ?_ hrest
    rw [List.forall_mem_cons]
    exact ⟨isNumberChar_of_isDigit hc, hall⟩
  · obtain ⟨c, rest, rfl, hc, hall⟩ := exists_of_isUnsigned h
    exact Token.heads_number (begin?_of_isDigit hc) hall hrest

/-- Only zero begins with a zero. -/
theorem head?_decimal {n : Nat} (h : (decimal n).head? = some '0') : n = 0 := by
  induction n using Nat.strongRecOn with
  | ind n ih =>
    rw [decimal, Nat.toDigits_eq_if (by decide)] at h
    split at h
    · next hlt =>
      have hzero : ∀ n < 10, [n.digitChar].head? = some '0' → n = 0 := by decide
      exact hzero n hlt h
    · next hle =>
      obtain ⟨c, digits, hcons⟩ := List.exists_cons_of_ne_nil (decimal_ne_nil (n / 10))
      have hzero : n / 10 = 0 := by
        refine ih (n / 10) (by omega) ?_
        rw [decimal] at hcons
        rw [decimal, hcons]
        rwa [hcons] at h
      omega

/-- The digits of a natural number are a number. -/
theorem isNumber_decimal (n : Nat) : isNumber (decimal n) := by
  have hdigit : ∀ c ∈ decimal n, c.isDigit := fun c hc => isDigit_of_mem_decimal hc
  have hskip : skipDigits? (decimal n) = some [] := by
    cases hdecimal : decimal n with
    | nil => exact absurd hdecimal (decimal_ne_nil n)
    | cons c rest =>
      rw [hdecimal, List.forall_mem_cons] at hdigit
      rw [skipDigits?, if_pos hdigit.1, List.dropWhile_eq_nil_iff.2 hdigit.2]
  rw [isNumber.eq_def]
  split
  · next rest hdecimal =>
    rw [hdecimal, List.forall_mem_cons] at hdigit
    exact absurd hdigit.1 (by decide)
  · rw [isUnsigned.eq_def]
    split
    · next rest hdecimal =>
      have hzero : n = 0 := head?_decimal (by rw [hdecimal]; rfl)
      rw [hzero] at hdecimal
      cases hdecimal
      rfl
    · rw [hskip]
      rfl

end FlowPeers.Json
