/-
# LinkOwnership.Proofs.Quoting -- a text between quotes tells what it quotes

A writer is prefix-free when what it writes, followed by anything, tells both what was written and
what follows (`Text.PrefixFree`).  Elements one after the other are written prefix-free up to a mark
with which none of them starts (`Text.PrefixFree.closed`).

A point stands between quotes in one of six ways (`Text.Spelled`).  `Text.readPoint` reads it back,
whatever follows (`Text.readPoint_of_spelled`), and no spelling starts with the quote.  So texts
between quotes are prefix-free (`Text.quotedChars_prefixFree`), although the quote depends on what
the text holds: it is the first character.

Everything written is printable (`Text.printable_quotedChars`), and a printable character is neither
a control character nor the end of a line.
-/
import LinkOwnership.Text.Quoted

namespace LinkOwnership.Text

set_option autoImplicit false

/-! ## Writers -/

section Writers

variable {α : Type}

/-- What is written, followed by anything, tells what was written and what follows. -/
def PrefixFree (write : α → List Char) : Prop :=
  ∀ ⦃a b : α⦄ ⦃x y : List Char⦄, write a ++ x = write b ++ y → a = b ∧ x = y

/-- Whatever is written, followed by anything, does not start with the mark. -/
def NeverOpens (write : α → List Char) (mark : Char) : Prop :=
  ∀ (a : α) (x y : List Char), write a ++ x ≠ mark :: y

namespace PrefixFree

variable {write : α → List Char}

/-- Writers that a reader undoes are prefix-free. -/
theorem of_read {read : List Char → Option (α × List Char)}
    (undone : ∀ a x, read (write a ++ x) = some (a, x)) : PrefixFree write := by
  intro a b x y same
  have pairs := (undone a x).symm.trans (same ▸ undone b y)
  cases pairs
  exact ⟨rfl, rfl⟩

/-- A fixed text in front does not matter. -/
theorem behind (free : PrefixFree write) (front : List Char) :
    PrefixFree fun a => front ++ write a := by
  intro a b x y same
  simp only [List.append_assoc] at same
  exact free (List.append_cancel_left same)

/-- Elements one after the other, and then a mark with which no element starts. -/
theorem closed (free : PrefixFree write) {mark : Char} (apart : NeverOpens write mark)
    {as bs : List α} {x y : List Char}
    (same : as.flatMap write ++ mark :: x = bs.flatMap write ++ mark :: y) : as = bs ∧ x = y := by
  induction as generalizing bs with
  | nil =>
      cases bs with
      | nil => exact ⟨rfl, (List.cons.inj same).2⟩
      | cons b bs =>
          rw [List.flatMap_cons, List.append_assoc] at same
          exact absurd same.symm (apart b _ _)
  | cons a as ih =>
      rw [List.flatMap_cons, List.append_assoc] at same
      cases bs with
      | nil => exact absurd same (apart a _ _)
      | cons b bs =>
          rw [List.flatMap_cons, List.append_assoc] at same
          obtain ⟨rfl, tails⟩ := free same
          obtain ⟨rfl, rest⟩ := ih tails
          exact ⟨rfl, rest⟩

end PrefixFree

end Writers

/-! ## One point -/

/-- The quotes that may stand around a text. -/
def IsQuote (c : Char) : Prop := c = '\'' ∨ c = '"'

theorem isQuote_enclosing (t : List Char) : IsQuote (enclosing t) := by
  rw [enclosing]
  split
  · exact Or.inr rfl
  · exact Or.inl rfl

/-- The letters of the escapes by number, and how many digits follow each of them. -/
def escapes : List (Char × Nat) := [('x', 2), ('u', 4), ('U', 8)]

/-- The ways in which a point is spelled between quotes. -/
inductive Spelled (delimiter : Char) : Point → List Char → Prop where
  | marked (c : Char) (reserved : c = delimiter ∨ c = '\\') :
      Spelled delimiter (.char c) ['\\', c]
  | tab : Spelled delimiter (.char '\t') ['\\', 't']
  | lineFeed : Spelled delimiter (.char '\n') ['\\', 'n']
  | carriageReturn : Spelled delimiter (.char '\r') ['\\', 'r']
  | itself (c : Char) (free : ¬ (c = delimiter ∨ c = '\\')) (printable : isPrintable c = true) :
      Spelled delimiter (.char c) [c]
  | number (p : Point) {letter : Char} {width : Nat} (escape : (letter, width) ∈ escapes)
      (fits : (Hex.digits p.toNat).length ≤ width) :
      Spelled delimiter p ('\\' :: letter :: Hex.padded width p.toNat)

/-- Each escape has room for the code points that it is used for. -/
theorem spelled_escapePoint (delimiter : Char) (p : Point) :
    Spelled delimiter p (escapePoint p.toNat) := by
  have bound := p.toNat_lt
  rw [escapePoint]
  split
  · exact .number p (by decide)
      ((Nat.length_toDigits_le_iff (by decide) (by decide)).2 (by omega))
  · split
    · exact .number p (by decide)
        ((Nat.length_toDigits_le_iff (by decide) (by decide)).2 (by omega))
    · exact .number p (by decide)
        ((Nat.length_toDigits_le_iff (by decide) (by decide)).2 (by omega))

theorem spelled_quotePoint (delimiter : Char) (p : Point) :
    Spelled delimiter p (quotePoint delimiter p) := by
  cases p with
  | half n => exact spelled_escapePoint delimiter (.half n)
  | char c =>
      rw [quotePoint, quoteChar]
      split
      · rename_i reserved
        exact .marked c reserved
      · rename_i free
        split
        · rename_i same
          exact same ▸ .tab
        · split
          · rename_i same
            exact same ▸ .lineFeed
          · split
            · rename_i same
              exact same ▸ .carriageReturn
            · split
              · rename_i printable
                exact .itself c free printable
              · exact spelled_escapePoint delimiter (.char c)

/-- The point whose code point the next digits give, and what follows them. -/
def readNumber (width : Nat) (t : List Char) : Option (Point × List Char) :=
  (Hex.natOfDigits? (t.take width)).map fun n => (Point.ofNat n, t.drop width)

/-- The point behind a backslash, and what follows it. -/
def readEscape : List Char → Option (Point × List Char)
  | [] => none
  | 'x' :: rest => readNumber 2 rest
  | 'u' :: rest => readNumber 4 rest
  | 'U' :: rest => readNumber 8 rest
  | 't' :: rest => some (.char '\t', rest)
  | 'n' :: rest => some (.char '\n', rest)
  | 'r' :: rest => some (.char '\r', rest)
  | c :: rest => some (.char c, rest)

/-- The first point of a text that stands between quotes, and what follows it. -/
def readPoint : List Char → Option (Point × List Char)
  | [] => none
  | c :: rest => if c = '\\' then readEscape rest else some (.char c, rest)

theorem readNumber_padded {width n : Nat} (fits : (Hex.digits n).length ≤ width)
    (x : List Char) : readNumber width (Hex.padded width n ++ x) = some (Point.ofNat n, x) := by
  have length := Hex.length_padded fits
  rw [readNumber, List.take_left' length, List.drop_left' length, Hex.natOfDigits?_padded]
  rfl

/-- A point comes back from its spelling, whatever follows. -/
theorem readPoint_of_spelled {delimiter : Char} (isQuote : IsQuote delimiter) {p : Point}
    {written : List Char} (spelled : Spelled delimiter p written) (x : List Char) :
    readPoint (written ++ x) = some (p, x) := by
  cases spelled with
  | marked c reserved =>
      -- Neither quote nor the backslash is the letter of another escape.
      rcases reserved with rfl | rfl
      · rcases isQuote with rfl | rfl <;> rfl
      · rfl
  | tab => rfl
  | lineFeed => rfl
  | carriageReturn => rfl
  | itself c free printable => exact if_neg fun same => free (Or.inr same)
  | number p escape fits =>
      have read := readNumber_padded fits x
      rw [Point.ofNat_toNat] at read
      simp only [escapes, List.mem_cons, List.not_mem_nil, or_false, Prod.mk.injEq] at escape
      rcases escape with ⟨rfl, rfl⟩ | ⟨rfl, rfl⟩ | ⟨rfl, rfl⟩
      · exact read
      · exact read
      · exact read

theorem quotePoint_prefixFree {delimiter : Char} (isQuote : IsQuote delimiter) :
    PrefixFree (quotePoint delimiter) :=
  PrefixFree.of_read fun p => readPoint_of_spelled isQuote (spelled_quotePoint delimiter p)

/-- A spelling starts with a backslash, or is a character other than the quote. -/
theorem quotePoint_neverOpens {delimiter : Char} (isQuote : IsQuote delimiter) :
    NeverOpens (quotePoint delimiter) delimiter := by
  intro p x y same
  have backslash : '\\' ≠ delimiter := by rcases isQuote with rfl | rfl <;> decide
  have spelled := spelled_quotePoint delimiter p
  generalize quotePoint delimiter p = written at spelled same
  cases spelled with
  | marked c reserved => exact backslash (List.cons.inj same).1
  | tab => exact backslash (List.cons.inj same).1
  | lineFeed => exact backslash (List.cons.inj same).1
  | carriageReturn => exact backslash (List.cons.inj same).1
  | itself c free printable => exact free (Or.inl (List.cons.inj same).1)
  | number p escape fits => exact backslash (List.cons.inj same).1

/-! ## A text between quotes -/

def quoteAround (s : LooseString) : Char := enclosing (s.points.filterMap Point.char?)

theorem isQuote_quoteAround (s : LooseString) : IsQuote (quoteAround s) := isQuote_enclosing _

def quotedChars (s : LooseString) : List Char := (quoteLoose s).toList

theorem quotedChars_append (s : LooseString) (x : List Char) :
    quotedChars s ++ x = quoteAround s ::
      (s.points.flatMap (quotePoint (quoteAround s)) ++ quoteAround s :: x) := by
  simp only [quotedChars, quoteLoose, quoteAround, String.toList_ofList, List.cons_append,
    List.append_assoc, List.nil_append]

theorem quotedChars_ofString (s : String) : quotedChars (.ofString s) = quote s.toList := by
  rw [quotedChars, quoteLoose_ofString, quoteString, String.toList_ofList]

theorem quotedChars_prefixFree : PrefixFree quotedChars := by
  intro s t x y same
  rw [quotedChars_append, quotedChars_append] at same
  obtain ⟨quotes, inner⟩ := List.cons.inj same
  rw [← quotes] at inner
  have isQuote := isQuote_quoteAround s
  obtain ⟨points, rest⟩ :=
    (quotePoint_prefixFree isQuote).closed (quotePoint_neverOpens isQuote) inner
  obtain ⟨ps⟩ := s
  obtain ⟨qs⟩ := t
  exact ⟨congrArg LooseString.mk points, rest⟩

theorem quotedChars_neverOpens {mark : Char} (apart : ¬ IsQuote mark) :
    NeverOpens quotedChars mark := by
  intro s x y same
  rw [quotedChars_append] at same
  exact apart ((List.cons.inj same).1 ▸ isQuote_quoteAround s)

/-! ## On one line -/

def IsControl (c : Char) : Prop := c.toNat ≤ 0x1F ∨ (0x7F ≤ c.toNat ∧ c.toNat ≤ 0x9F)

/-- The characters after which a new line begins. -/
def EndsLine (c : Char) : Prop :=
  c.toNat ∈ [0x0A, 0x0B, 0x0C, 0x0D, 0x1C, 0x1D, 0x1E, 0x85, 0x2028, 0x2029]

theorem not_isControl_of_isPrintable {c : Char} (printable : isPrintable c = true) :
    ¬ IsControl c := by
  have covered : ∀ n < 0xA0, (n ≤ 0x1F ∨ 0x7F ≤ n) →
      Spans.cover PrintTable.unprintable n = true := by decide +kernel
  intro control
  have unprintable := covered c.toNat (by rcases control with low | high <;> omega)
    (by rcases control with low | high <;> omega)
  simp [isPrintable, unprintable] at printable

theorem not_endsLine_of_isPrintable {c : Char} (printable : isPrintable c = true) :
    ¬ EndsLine c := by
  have covered : ∀ n ∈ [0x0A, 0x0B, 0x0C, 0x0D, 0x1C, 0x1D, 0x1E, 0x85, 0x2028, 0x2029],
      Spans.cover PrintTable.unprintable n = true := by decide +kernel
  intro ends
  simp [isPrintable, covered c.toNat ends] at printable

def Printable (t : List Char) : Prop := ∀ c ∈ t, isPrintable c = true

instance (t : List Char) : Decidable (Printable t) := List.decidableBAll _ t

theorem Printable.single {c : Char} (printable : isPrintable c = true) : Printable [c] := by
  simpa [Printable] using printable

theorem Printable.append {s t : List Char} (front : Printable s) (back : Printable t) :
    Printable (s ++ t) :=
  fun c h => (List.mem_append.1 h).elim (front c) (back c)

theorem Printable.flatMap {α : Type} {write : α → List Char} (each : ∀ a, Printable (write a))
    (as : List α) : Printable (as.flatMap write) := by
  intro c h
  obtain ⟨a, _, inside⟩ := List.mem_flatMap.1 h
  exact each a c inside

theorem printable_padded (width n : Nat) : Printable (Hex.padded width n) := by
  have digits : ∀ k < 16, isPrintable (Hex.digit k) = true := by decide +kernel
  intro c h
  obtain ⟨k, small, rfl⟩ := Hex.exists_digit_of_mem_padded h
  exact digits k small

theorem isPrintable_of_isQuote {c : Char} (isQuote : IsQuote c) : isPrintable c = true := by
  rcases isQuote with rfl | rfl <;> decide +kernel

theorem printable_quotePoint {delimiter : Char} (isQuote : IsQuote delimiter) (p : Point) :
    Printable (quotePoint delimiter p) := by
  have backslash : Printable ['\\'] := by decide +kernel
  have spelled := spelled_quotePoint delimiter p
  generalize quotePoint delimiter p = written at spelled
  cases spelled with
  | marked c reserved =>
      have printable : isPrintable c = true := by
        rcases reserved with rfl | rfl
        · exact isPrintable_of_isQuote isQuote
        · decide +kernel
      exact backslash.append (Printable.single printable)
  | tab => decide +kernel
  | lineFeed => decide +kernel
  | carriageReturn => decide +kernel
  | itself c free printable => exact Printable.single printable
  | number p escape fits =>
      have letters : ∀ e ∈ escapes, isPrintable e.1 = true := by decide +kernel
      exact (backslash.append (Printable.single (letters _ escape))).append
        (printable_padded _ p.toNat)

theorem printable_quotedChars (s : LooseString) : Printable (quotedChars s) := by
  have isQuote := isQuote_quoteAround s
  have written := quotedChars_append s []
  rw [List.append_nil] at written
  rw [written]
  have quote := Printable.single (isPrintable_of_isQuote isQuote)
  exact quote.append ((Printable.flatMap (printable_quotePoint isQuote) s.points).append quote)

end LinkOwnership.Text
