/-!
# Cutting a text at separators

A text is a list of characters. `splitOn p` cuts it at every character that satisfies `p` and
leaves the separators out, so `n` separators give `n + 1` pieces; `joinWith` puts a separator
between the pieces again. The main statements are `joinWith_splitOn`, cutting at one character and
joining with it gives the text back, and `splitOn_joinWith`, pieces that hold no separator are found
again in what they are joined to.
-/

namespace FlowPeers.Text

/-- The pieces of a text between the characters that satisfy the test. -/
def splitOn (p : Char → Bool) : List Char → List (List Char)
  | [] => [[]]
  | c :: rest =>
    if p c then [] :: splitOn p rest
    else match splitOn p rest with
      | [] => [[c]]
      | piece :: pieces => (c :: piece) :: pieces

/-- The pieces one after the other, with the separator between them. -/
def joinWith (separator : List Char) : List (List Char) → List Char
  | [] => []
  | [piece] => piece
  | piece :: next :: pieces => piece ++ separator ++ joinWith separator (next :: pieces)

theorem splitOn_ne_nil (p : Char → Bool) (s : List Char) : splitOn p s ≠ [] := by
  cases s with
  | nil => simp [splitOn]
  | cons c rest =>
    rw [splitOn]
    split
    · simp
    · split <;> simp

theorem joinWith_cons (separator piece : List Char) {pieces : List (List Char)}
    (h : pieces ≠ []) :
    joinWith separator (piece :: pieces) = piece ++ separator ++ joinWith separator pieces := by
  cases pieces with
  | nil => exact absurd rfl h
  | cons next pieces => rfl

theorem exists_of_mem_joinWith {separator : List Char} {pieces : List (List Char)} {c : Char}
    (h : c ∈ joinWith separator pieces) : c ∈ separator ∨ ∃ piece ∈ pieces, c ∈ piece := by
  induction pieces with
  | nil => simp [joinWith] at h
  | cons piece pieces ih =>
    cases pieces with
    | nil => exact .inr ⟨piece, by simp, h⟩
    | cons next pieces =>
      rw [joinWith_cons _ _ (by simp), List.mem_append, List.mem_append] at h
      rcases h with (h | h) | h
      · exact .inr ⟨piece, by simp, h⟩
      · exact .inl h
      · rcases ih h with hseparator | ⟨piece, hpiece, hc⟩
        · exact .inl hseparator
        · exact .inr ⟨piece, List.mem_cons_of_mem _ hpiece, hc⟩

theorem joinWith_splitOn (sep : Char) (s : List Char) :
    joinWith [sep] (splitOn (· == sep) s) = s := by
  induction s with
  | nil => rfl
  | cons c rest ih =>
    rw [splitOn]
    split
    · next h =>
      rw [joinWith_cons _ _ (splitOn_ne_nil _ _), ih]
      simpa using (eq_of_beq h).symm
    · cases hs : splitOn (· == sep) rest with
      | nil => exact absurd hs (splitOn_ne_nil _ _)
      | cons piece pieces =>
        rw [hs] at ih
        cases pieces <;> simp_all [joinWith]

theorem splitOn_eq_singleton {p : Char → Bool} {s : List Char} (h : ∀ c ∈ s, p c = false) :
    splitOn p s = [s] := by
  induction s with
  | nil => rfl
  | cons c rest ih =>
    have hc : p c = false := h c (by simp)
    simp [splitOn, hc, ih fun d hd => h d (by simp [hd])]

theorem splitOn_append_cons {p : Char → Bool} {s rest : List Char} {sep : Char}
    (h : ∀ c ∈ s, p c = false) (hsep : p sep = true) :
    splitOn p (s ++ sep :: rest) = s :: splitOn p rest := by
  induction s with
  | nil => simp [splitOn, hsep]
  | cons c s ih =>
    have hc : p c = false := h c (by simp)
    simp [splitOn, hc, ih fun d hd => h d (by simp [hd])]

theorem splitOn_joinWith {sep : Char} {pieces : List (List Char)} (hne : pieces ≠ [])
    (h : ∀ piece ∈ pieces, sep ∉ piece) :
    splitOn (· == sep) (joinWith [sep] pieces) = pieces := by
  have free : ∀ piece ∈ pieces, ∀ c ∈ piece, (c == sep) = false := by
    intro piece hp c hc
    refine beq_eq_false_iff_ne.2 fun hcs => h piece hp (hcs ▸ hc)
  induction pieces with
  | nil => exact absurd rfl hne
  | cons piece pieces ih =>
    cases pieces with
    | nil => exact splitOn_eq_singleton (free piece (by simp))
    | cons next pieces =>
      rw [joinWith_cons _ _ (by simp), List.append_assoc, List.singleton_append,
        splitOn_append_cons (free piece (by simp)) (by simp),
        ih (by simp) (fun p hp => h p (List.mem_cons_of_mem _ hp))
          fun p hp => free p (List.mem_cons_of_mem _ hp)]

/-- The words of a text: its non-empty stretches between blanks and line ends. -/
def words (s : List Char) : List (List Char) :=
  (splitOn (fun c => c == ' ' || c == '\n') s).filter (!·.isEmpty)

end FlowPeers.Text
