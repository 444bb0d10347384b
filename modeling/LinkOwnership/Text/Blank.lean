/-
# LinkOwnership.Text.Blank -- text without its surrounding blanks

Two sets of characters count as blank.  `whiteSpace` is the Unicode property of
that name; `blank` adds the four information separators U+001C to U+001F, and is
what a host is stripped of.  `trim` cuts a class from both ends of a text, whether it is a
text of characters or of points: nothing in the class is left at either end (`head?_trim`,
`getLast?_trim`), and trimming again changes nothing (`trim_trim`).
-/
import LinkOwnership.Text.Spans

namespace LinkOwnership.Text

set_option autoImplicit false

/-- The Unicode property White_Space. -/
def whiteSpaceSpans : List Span := [
  ⟨0x0009, 0x000D⟩, ⟨0x0020, 0x0020⟩, ⟨0x0085, 0x0085⟩, ⟨0x00A0, 0x00A0⟩, ⟨0x1680, 0x1680⟩,
  ⟨0x2000, 0x200A⟩, ⟨0x2028, 0x2029⟩, ⟨0x202F, 0x202F⟩, ⟨0x205F, 0x205F⟩, ⟨0x3000, 0x3000⟩]

/-- White space and the four information separators. -/
def blankSpans : List Span := [
  ⟨0x0009, 0x000D⟩, ⟨0x001C, 0x0020⟩, ⟨0x0085, 0x0085⟩, ⟨0x00A0, 0x00A0⟩, ⟨0x1680, 0x1680⟩,
  ⟨0x2000, 0x200A⟩, ⟨0x2028, 0x2029⟩, ⟨0x202F, 0x202F⟩, ⟨0x205F, 0x205F⟩, ⟨0x3000, 0x3000⟩]

def isWhiteSpace (c : Char) : Bool := Spans.cover whiteSpaceSpans c.toNat

def isBlank (c : Char) : Bool := Spans.cover blankSpans c.toNat

section Trim

variable {α : Type} (p : α → Bool)

def trimStart (t : List α) : List α := t.dropWhile p

def trimEnd (t : List α) : List α := (t.reverse.dropWhile p).reverse

/-- The text without what is in the class `p` at either end. -/
def trim (t : List α) : List α := trimEnd p (trimStart p t)

private theorem head?_dropWhile (t : List α) :
    ∀ c ∈ (t.dropWhile p).head?, p c = false := by
  induction t with
  | nil => simp
  | cons c t ih =>
      by_cases h : p c
      · simpa [List.dropWhile, h] using ih
      · intro d hd
        simp only [List.dropWhile, h, List.head?_cons, Option.mem_def, Option.some.injEq] at hd
        subst hd; simpa using h

private theorem dropWhile_eq_self {t : List α} (h : ∀ c ∈ t.head?, p c = false) :
    t.dropWhile p = t := by
  cases t with
  | nil => rfl
  | cons c t => simp [List.dropWhile, h c (by simp)]

/-- Nothing in the class ends a trimmed text. -/
theorem getLast?_trim (t : List α) : ∀ c ∈ (trim p t).getLast?, p c = false := by
  intro c hc
  rw [trim, trimEnd, List.getLast?_reverse] at hc
  exact head?_dropWhile p _ c hc

/-- What is cut off the end leaves the start as it was. -/
private theorem head?_trimEnd (t : List α) (h : ∀ c ∈ t.head?, p c = false) :
    ∀ c ∈ (trimEnd p t).head?, p c = false := by
  intro c hc
  have suffix : t.reverse.dropWhile p <:+ t.reverse := List.dropWhile_suffix p
  have front : trimEnd p t <+: t := by
    have := List.reverse_prefix.2 suffix
    simpa [trimEnd] using this
  obtain ⟨rest, whole⟩ := front
  apply h c
  rw [← whole]
  cases kept : trimEnd p t with
  | nil => simp [kept] at hc
  | cons d ds => simpa [kept] using hc

/-- Nothing in the class starts a trimmed text. -/
theorem head?_trim (t : List α) : ∀ c ∈ (trim p t).head?, p c = false :=
  head?_trimEnd p _ (head?_dropWhile p t)

/-- A text with nothing in the class at either end is trimmed already. -/
theorem trim_eq_self {t : List α} (start : ∀ c ∈ t.head?, p c = false)
    (last : ∀ c ∈ t.getLast?, p c = false) : trim p t = t := by
  rw [trim, trimStart, dropWhile_eq_self p start, trimEnd,
    dropWhile_eq_self p (t := t.reverse) (by simpa using last), List.reverse_reverse]

theorem trim_trim (t : List α) : trim p (trim p t) = trim p t :=
  trim_eq_self p (head?_trim p t) (getLast?_trim p t)

end Trim

end LinkOwnership.Text
