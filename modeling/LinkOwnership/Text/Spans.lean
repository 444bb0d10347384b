/-
# LinkOwnership.Text.Spans -- sets of characters given by spans of code points

A character class of the Unicode data is a long set with few gaps.  `Span` is one
unbroken stretch of code points and `Spans.cover` says whether a list of them, in
ascending order, reaches a code point; on an ascending list it agrees with plain
membership (`Spans.cover_iff`), although it stops at the first span beyond.
-/

namespace LinkOwnership.Text

set_option autoImplicit false

/-- The code points from `first` to `last`, both included. -/
structure Span where
  first : Nat
  last : Nat
  deriving DecidableEq, Repr

namespace Spans

/-- Every span ends before the next one starts. -/
def Ascending (spans : List Span) : Prop :=
  spans.Pairwise fun a b => a.last < b.first

/-- Whether one of the ascending spans holds the code point. -/
def cover : List Span → Nat → Bool
  | [], _ => false
  | span :: rest, n =>
      if n < span.first then false else if n ≤ span.last then true else cover rest n

/-- On ascending, non-empty spans the early stop loses nothing. -/
theorem cover_iff {spans : List Span} (ascending : Ascending spans)
    (nonempty : ∀ s ∈ spans, s.first ≤ s.last) (n : Nat) :
    cover spans n = true ↔ ∃ s ∈ spans, s.first ≤ n ∧ n ≤ s.last := by
  induction spans with
  | nil => simp [cover]
  | cons span rest ih =>
      have tail := ih (List.Pairwise.of_cons ascending)
        (fun s hs => nonempty s (List.mem_cons_of_mem _ hs))
      have here := nonempty span (List.mem_cons_self ..)
      have beyond : ∀ s ∈ rest, span.last < s.first := (List.pairwise_cons.1 ascending).1
      unfold cover
      by_cases before : n < span.first
      · rw [if_pos before]
        constructor
        · intro h; cases h
        · rintro ⟨s, hs, low, _⟩
          rcases List.mem_cons.1 hs with rfl | hs
          · omega
          · have := beyond s hs; omega
      · rw [if_neg before]
        by_cases inside : n ≤ span.last
        · simp [inside]; exact Or.inl (by omega)
        · rw [if_neg inside, tail]
          constructor
          · rintro ⟨s, hs, bounds⟩; exact ⟨s, List.mem_cons_of_mem _ hs, bounds⟩
          · rintro ⟨s, hs, low, high⟩
            rcases List.mem_cons.1 hs with rfl | hs
            · omega
            · exact ⟨s, hs, low, high⟩

end Spans

end LinkOwnership.Text
