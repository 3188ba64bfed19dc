/-!
# Stable sorting

`sortBy le` puts a list into the order of `le`, items that stand equal keeping their order. It
inserts the items one after the other, from the last one on, each in front of the first item that it
may precede. The result holds the same items (`sortBy_perm`) and is in order (`pairwise_sortBy`).
-/

namespace FlowPeers

variable {α : Type}

/-- Puts an item in front of the first one that it may precede. -/
def insertBy (le : α → α → Bool) (a : α) : List α → List α
  | [] => [a]
  | b :: rest => if le a b then a :: b :: rest else b :: insertBy le a rest

/-- The items of a list in order. -/
def sortBy (le : α → α → Bool) : List α → List α
  | [] => []
  | a :: rest => insertBy le a (sortBy le rest)

theorem insertBy_perm (le : α → α → Bool) (a : α) (s : List α) :
    (insertBy le a s).Perm (a :: s) := by
  induction s with
  | nil => exact .refl _
  | cons b rest ih =>
    rw [insertBy]
    split
    · exact .refl _
    · exact (ih.cons b).trans (.swap a b rest)

theorem sortBy_perm (le : α → α → Bool) (s : List α) : (sortBy le s).Perm s := by
  induction s with
  | nil => exact .refl _
  | cons a rest ih => exact (insertBy_perm le a _).trans (ih.cons a)

theorem pairwise_insertBy {le : α → α → Bool}
    (trans : ∀ a b c, le a b → le b c → le a c) (total : ∀ a b, le a b || le b a)
    (a : α) {s : List α} (h : s.Pairwise (le · ·)) : (insertBy le a s).Pairwise (le · ·) := by
  induction s with
  | nil => simp [insertBy]
  | cons b rest ih =>
    obtain ⟨hb, hrest⟩ := List.pairwise_cons.1 h
    rw [insertBy]
    split
    · next hab =>
      refine List.pairwise_cons.2 ⟨fun c hc => ?_, h⟩
      rcases List.mem_cons.1 hc with rfl | hc
      · exact hab
      · exact trans a b c hab (hb c hc)
    · next hab =>
      refine List.pairwise_cons.2 ⟨fun c hc => ?_, ih hrest⟩
      rcases List.mem_cons.1 ((insertBy_perm le a rest).mem_iff.1 hc) with rfl | hc
      · simpa [hab] using total c b
      · exact hb c hc

theorem pairwise_sortBy {le : α → α → Bool}
    (trans : ∀ a b c, le a b → le b c → le a c) (total : ∀ a b, le a b || le b a)
    (s : List α) : (sortBy le s).Pairwise (le · ·) := by
  induction s with
  | nil => exact .nil
  | cons a rest ih => exact pairwise_insertBy trans total a ih

end FlowPeers
