/-
# LinkOwnership.Text.Loose -- text in which half of a surrogate pair may stand alone

Escapes and sixteen-bit units write the characters beyond U+FFFF as surrogate pairs, and so
they can also write half of a pair without the other.  Such a half is no character, and it has
no form in UTF-8.  A `Point` of a text is a character or a lone half, and a `LooseString` is a
list of points.  Points are ordered by code point and texts like words in a dictionary; both
orders tell unequal ones apart, so texts can be the keys of ordered maps.

`loneHalves?` finds where a text stops having a form in UTF-8: at its first unbroken run of
lone halves.  A text of characters has no such place (`loneHalvesFrom_map_char`), and
`LooseString.string` gives the string of a text without one: every string comes back
(`string_ofString`).  `LooseString.shown` makes a string of any text.
-/
import LinkOwnership.Text.Hex

namespace LinkOwnership.Text

set_option autoImplicit false

/-- The least code point of a half; there are 2048 of them, one after the other. -/
def firstHalf : Nat := 0xD800

inductive Point where
  | char (c : Char)
  /-- Half of a surrogate pair, by its distance from the least half. -/
  | half (n : Fin 0x800)
  deriving DecidableEq, Repr

namespace Point

/-- The point of a number below the limit of Unicode. -/
def ofNat (n : Nat) : Point :=
  if h : firstHalf ≤ n ∧ n < firstHalf + 0x800 then
    .half ⟨n - firstHalf, by omega⟩
  else .char (Char.ofNat n)

def toNat : Point → Nat
  | .char c => c.toNat
  | .half n => firstHalf + n.val

def char? : Point → Option Char
  | .char c => some c
  | .half _ => none

def isHalf : Point → Bool
  | .char _ => false
  | .half _ => true

/-- Whether a point is a character of a class; a half is in no class. -/
def holds (p : Char → Bool) : Point → Bool
  | .char c => p c
  | .half _ => false

/-- The code points of the halves are those that no character has. -/
private theorem char_apart (c : Char) (n : Fin 0x800) : c.toNat ≠ firstHalf + n.val := by
  have valid := c.valid
  simp only [UInt32.isValidChar, Nat.isValidChar] at valid
  have := n.isLt
  simp only [Char.toNat, firstHalf]
  omega

theorem toNat_inj {a b : Point} (h : a.toNat = b.toNat) : a = b := by
  cases a with
  | char c =>
      cases b with
      | char d => exact congrArg Point.char (Char.toNat_inj.1 h)
      | half n => exact absurd h (char_apart c n)
  | half m =>
      cases b with
      | char d => exact absurd h.symm (char_apart d m)
      | half n => exact congrArg Point.half (Fin.ext (Nat.add_left_cancel h))

/-- Every point comes back from its code point. -/
theorem ofNat_toNat (p : Point) : ofNat p.toNat = p := by
  cases p with
  | char c =>
      have apart : ¬ (firstHalf ≤ c.toNat ∧ c.toNat < firstHalf + 0x800) := by
        rintro ⟨low, high⟩
        exact char_apart c ⟨c.toNat - firstHalf, by omega⟩ (Nat.add_sub_of_le low).symm
      simp only [ofNat, toNat, dif_neg apart, Char.ofNat_toNat]
  | half n =>
      have inside : firstHalf ≤ firstHalf + n.val ∧ firstHalf + n.val < firstHalf + 0x800 :=
        ⟨Nat.le_add_right _ _, Nat.add_lt_add_left n.isLt _⟩
      simp only [ofNat, toNat, dif_pos inside, Nat.add_sub_cancel_left]

theorem toNat_lt (p : Point) : p.toNat < 0x110000 := by
  cases p with
  | char c =>
      have valid := c.valid
      simp only [UInt32.isValidChar, Nat.isValidChar] at valid
      simp only [toNat, Char.toNat]
      omega
  | half n =>
      have := n.isLt
      simp only [toNat, firstHalf]
      omega

instance : Ord Point := ⟨compareOn toNat⟩

instance : Std.TransOrd Point := inferInstanceAs (Std.TransCmp (compareOn toNat))

instance : Std.LawfulEqOrd Point where
  eq_of_compare {a b} h := by
    have h : compare a.toNat b.toNat = .eq := h
    exact toNat_inj (Std.LawfulEqOrd.eq_of_compare h)

end Point

/-- The characters of a class at the start of points. -/
def leading (p : Char → Bool) : List Point → List Char
  | .char c :: rest => if p c then c :: leading p rest else []
  | _ => []

/-! ## Where UTF-8 has no form -/

/-- An unbroken run of lone halves: its position, its first half and how many there are. -/
structure LoneHalves where
  position : Nat
  first : Fin 0x800
  count : Nat
  deriving DecidableEq, Repr

/-- One half is shown by its escape, several by the positions of the first and the last. -/
def LoneHalves.message (h : LoneHalves) : String :=
  if h.count = 1 then
    "'utf-8' codec can't encode character '\\u"
      ++ String.ofList (Hex.padded 4 (firstHalf + h.first.val))
      ++ s!"' in position {h.position}: surrogates not allowed"
  else
    s!"'utf-8' codec can't encode characters in position {h.position}-"
      ++ s!"{h.position + h.count - 1}: surrogates not allowed"

/-- The first run of lone halves among points, the first of which is at `pos`. -/
def loneHalvesFrom (pos : Nat) : List Point → Option LoneHalves
  | [] => none
  | .char _ :: rest => loneHalvesFrom (pos + 1) rest
  | .half n :: rest => some ⟨pos, n, (rest.takeWhile Point.isHalf).length + 1⟩

def loneHalves? (t : List Point) : Option LoneHalves := loneHalvesFrom 0 t

theorem loneHalvesFrom_map_char (pos : Nat) (t : List Char) :
    loneHalvesFrom pos (t.map .char) = none := by
  induction t generalizing pos with
  | nil => rfl
  | cons c t ih => exact ih (pos + 1)

/-! ## Texts -/

structure LooseString where
  points : List Point
  deriving DecidableEq, Repr, Inhabited

namespace LooseString

def ofString (s : String) : LooseString := ⟨s.toList.map .char⟩

instance : Coe String LooseString := ⟨ofString⟩

instance : Append LooseString := ⟨fun s t => ⟨s.points ++ t.points⟩⟩

/-- Texts one after the other, with a text between them. -/
def intercalate (between : LooseString) (ts : List LooseString) : LooseString :=
  ⟨between.points.intercalate (ts.map points)⟩

instance : Ord LooseString := ⟨compareOn points⟩

instance : Std.TransOrd LooseString := inferInstanceAs (Std.TransCmp (compareOn points))

instance : Std.LawfulEqOrd LooseString where
  eq_of_compare {s t} h := by
    have h : compare s.points t.points = .eq := h
    obtain ⟨ps⟩ := s
    obtain ⟨qs⟩ := t
    exact congrArg LooseString.mk (Std.LawfulEqOrd.eq_of_compare h)

/-- The string of a text, or the lone halves that keep it from being one. -/
def string (s : LooseString) : Except LoneHalves String :=
  match loneHalves? s.points with
  | some halves => .error halves
  | none => .ok (String.ofList (s.points.filterMap Point.char?))

/-- The string of a text without lone halves. -/
def string? (s : LooseString) : Option String := s.string.toOption

theorem string_ofString (s : String) : (ofString s).string = .ok s := by
  have chars : (s.toList.map Point.char).filterMap Point.char? = s.toList := by
    rw [List.filterMap_map]; exact List.filterMap_some
  have whole : loneHalves? (ofString s).points = none := loneHalvesFrom_map_char 0 s.toList
  rw [string, whole]
  simp only [ofString, chars, String.ofList_toList]

theorem ofString_inj {s t : String} (same : ofString s = ofString t) : s = t :=
  Except.ok.inj (by rw [← string_ofString s, same, string_ofString])

/-- What a reader of UTF-8 sees of a point.  A half that is written in three bytes, as if it were
a character, is three times what cannot be read. -/
def shownPoint : Point → List Char
  | .char c => [c]
  | .half _ => ['\ufffd', '\ufffd', '\ufffd']

/-- The text as a string in which replacement characters stand for lone halves. -/
def shown (s : LooseString) : String := String.ofList (s.points.flatMap shownPoint)

theorem shown_ofString (s : String) : (ofString s).shown = s := by
  have chars : (s.toList.map Point.char).flatMap shownPoint = s.toList := by
    rw [List.flatMap_map]; exact List.flatMap_singleton' s.toList
  simp only [shown, ofString, chars, String.ofList_toList]

end LooseString

end LinkOwnership.Text
