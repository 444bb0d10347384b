/-
# LinkOwnership.Proofs.Normalization -- a normal form is its own normal form

Lower-casing settles a text: no lower-case form is changed by lower-casing again
(`settled_lowerSimple`), and the two characters with rules of their own do not come back
(`settled_of_mem_lowerAfter`), so the context of a sigma no longer matters the second time
(`lower_lower`).  No blank is the lower case of anything but a blank, so what was trimmed before
is trimmed afterwards, and `Host.normalize` may be applied any number of times
(`Host.normalize_normalize`).
-/
import LinkOwnership.Host

namespace LinkOwnership.Text

set_option autoImplicit false

/-! ## The case table -/

namespace CaseRun

/-- Whether the run gives the code point another lower-case form. -/
def Lowers (r : CaseRun) (n : Nat) : Prop :=
  r.first ≤ n ∧ n ≤ r.last ∧ (n - r.first) % r.stride = 0

/-- The lower-case form of the last code point of the run. -/
def reach (r : CaseRun) : Nat := r.target + (r.last - r.first)

/-- Whether a run lowers nothing from `low` to `high`, or, when `skips` says that only every other
code point counts from `low` on, lowers only those between. -/
def avoids (low high : Nat) (skips : Bool) (r : CaseRun) : Bool :=
  Nat.blt r.last low || Nat.blt high r.first ||
    (skips && Nat.beq r.stride 2 && Nat.beq ((low + r.first) % 2) 1)

/-- Whether no lower-case form of the run has a further one, is blank or is one of the two
characters with rules of their own, and all of them are characters. -/
def settles (r : CaseRun) : Bool :=
  let high := r.reach
  let skips := Nat.beq r.stride 2 || Nat.beq r.first r.last
  let apart (s : Span) : Bool := Nat.blt s.last r.target || Nat.blt high s.first
  CaseTable.lowerRuns.all (avoids r.target high skips) && blankSpans.all apart &&
    [⟨0x3A3, 0x3A3⟩, ⟨0x130, 0x130⟩, ⟨0xD800, 0xDFFF⟩].all apart && Nat.blt high 0x110000

theorem not_lowers_of_avoids {r s : CaseRun} {n : Nat} (lowers : r.Lowers n)
    (clear : avoids r.target r.reach (Nat.beq r.stride 2 || Nat.beq r.first r.last) s = true) :
    ¬ s.Lowers (r.target + (n - r.first)) := by
  rintro ⟨low, high, step⟩
  obtain ⟨first, last, onStep⟩ := lowers
  simp only [avoids, reach, Bool.or_eq_true, Bool.and_eq_true, Nat.blt_eq, Nat.beq_eq] at clear
  rcases clear with (below | above) | ⟨⟨skips, two⟩, odd⟩
  · omega
  · omega
  · rw [two] at step
    rcases skips with every | single
    · rw [every] at onStep; omega
    · omega

end CaseRun

/-- A look-up finds a run that lowers the code point, or leaves the code point as it is. -/
theorem lowerNumber_cases (runs : List CaseRun) (n : Nat) :
    lowerNumber runs n = n ∨
      ∃ r ∈ runs, r.Lowers n ∧ lowerNumber runs n = r.target + (n - r.first) := by
  induction runs with
  | nil => exact Or.inl rfl
  | cons run rest ih =>
      unfold lowerNumber
      by_cases before : n < run.first
      · rw [if_pos before]; exact Or.inl rfl
      · rw [if_neg before]
        by_cases inside : n ≤ run.last ∧ (n - run.first) % run.stride = 0
        · rw [if_pos inside]
          exact Or.inr ⟨run, List.mem_cons_self .., ⟨by omega, inside⟩, rfl⟩
        · rw [if_neg inside]
          rcases ih with same | ⟨r, member, found⟩
          · exact Or.inl same
          · exact Or.inr ⟨r, List.mem_cons_of_mem _ member, found⟩

theorem lowerNumber_eq_self {runs : List CaseRun} {n : Nat} (none : ∀ r ∈ runs, ¬ r.Lowers n) :
    lowerNumber runs n = n := by
  rcases lowerNumber_cases runs n with same | ⟨r, member, lowers, _⟩
  · exact same
  · exact absurd lowers (none r member)

theorem lowerRuns_settle : CaseTable.lowerRuns.all CaseRun.settles = true := by decide +kernel

/-! ## Settled characters -/

/-- A character that lower-casing leaves as it is, wherever it stands. -/
structure Settled (c : Char) : Prop where
  not_sigma : c ≠ '\u03a3'
  not_dotted : c ≠ '\u0130'
  lowerSimple_eq : lowerSimple c = c

theorem toNat_ofNat_of_lt {n : Nat} (small : n < 0x110000) (whole : n < 0xD800 ∨ 0xDFFF < n) :
    (Char.ofNat n).toNat = n := by
  have valid : n.isValidChar := by
    rcases whole with low | high
    · exact Or.inl low
    · exact Or.inr ⟨high, small⟩
  rw [Char.ofNat, dif_pos valid]
  rfl

theorem isBlank_eq_true_iff (c : Char) :
    isBlank c = true ↔ ∃ s ∈ blankSpans, s.first ≤ c.toNat ∧ c.toNat ≤ s.last :=
  Spans.cover_iff (by unfold Spans.Ascending; decide) (by decide) c.toNat

/-- The lower-case form that a run gives is settled, and it is not blank. -/
theorem settled_of_lowers {c : Char} {r : CaseRun} (member : r ∈ CaseTable.lowerRuns)
    (lowers : r.Lowers c.toNat)
    (found : lowerNumber CaseTable.lowerRuns c.toNat = r.target + (c.toNat - r.first)) :
    Settled (lowerSimple c) ∧ isBlank (lowerSimple c) = false := by
  have settles := List.all_eq_true.1 lowerRuns_settle r member
  simp only [CaseRun.settles, Bool.and_eq_true, List.all_cons, List.all_nil, Bool.or_eq_true,
    Nat.blt_eq, CaseRun.reach, and_true] at settles
  obtain ⟨⟨⟨clear, notBlank⟩, sigma, dotted, halves⟩, small⟩ := settles
  have bounds : r.first ≤ c.toNat ∧ c.toNat ≤ r.last := ⟨lowers.1, lowers.2.1⟩
  have number : (lowerSimple c).toNat = r.target + (c.toNat - r.first) := by
    rw [lowerSimple, found]
    exact toNat_ofNat_of_lt (by omega) (by omega)
  have other : ∀ d : Char, d.toNat ≠ r.target + (c.toNat - r.first) → lowerSimple c ≠ d := by
    intro d apart same
    exact apart (same ▸ number)
  have again : lowerNumber CaseTable.lowerRuns (lowerSimple c).toNat = (lowerSimple c).toNat := by
    apply lowerNumber_eq_self
    intro s hs
    rw [number]
    exact CaseRun.not_lowers_of_avoids lowers (List.all_eq_true.1 clear s hs)
  refine ⟨⟨other _ ?_, other _ ?_, ?_⟩, ?_⟩
  · show 0x3A3 ≠ _; omega
  · show 0x130 ≠ _; omega
  · rw [lowerSimple, again, Char.ofNat_toNat]
  · rw [Bool.eq_false_iff, Ne, isBlank_eq_true_iff, number]
    rintro ⟨s, hs, low, high⟩
    have apart := List.all_eq_true.1 notBlank s hs
    simp only [Bool.or_eq_true, Nat.blt_eq] at apart
    omega

/-- The simple lower-case form of a character other than the two with rules of their own is
settled, and is no blank unless the character is one. -/
theorem settled_lowerSimple {c : Char} (notSigma : c ≠ '\u03a3') (notDotted : c ≠ '\u0130') :
    Settled (lowerSimple c) ∧ (isBlank c = false → isBlank (lowerSimple c) = false) := by
  rcases lowerNumber_cases CaseTable.lowerRuns c.toNat with same | ⟨r, member, lowers, found⟩
  · have fixed : lowerSimple c = c := by rw [lowerSimple, same, Char.ofNat_toNat]
    rw [fixed]
    exact ⟨⟨notSigma, notDotted, fixed⟩, id⟩
  · obtain ⟨settled, notBlank⟩ := settled_of_lowers member lowers found
    exact ⟨settled, fun _ => notBlank⟩

instance (c : Char) : Decidable (Settled c) :=
  decidable_of_iff (c ≠ '\u03a3' ∧ c ≠ '\u0130' ∧ lowerSimple c = c)
    ⟨fun ⟨h₁, h₂, h₃⟩ => ⟨h₁, h₂, h₃⟩, fun ⟨h₁, h₂, h₃⟩ => ⟨h₁, h₂, h₃⟩⟩

theorem settled_lowerChar {afterLetter : Bool} {c : Char} {rest : List Point} {d : Char}
    (member : d ∈ lowerChar afterLetter c rest) :
    Settled d ∧ (isBlank c = false → isBlank d = false) := by
  unfold lowerChar at member
  split at member
  · rw [List.mem_singleton] at member
    subst member
    split <;> exact ⟨by decide +kernel, fun _ => by decide +kernel⟩
  · rename_i notSigma
    split at member
    · simp only [List.mem_cons, List.not_mem_nil, or_false] at member
      rcases member with rfl | rfl <;> exact ⟨by decide +kernel, fun _ => by decide +kernel⟩
    · rename_i notDotted
      rw [List.mem_singleton] at member
      subst member
      exact settled_lowerSimple notSigma notDotted

/-! ## Lower-casing a text -/

theorem settled_of_mem_lowerAfter {afterLetter : Bool} {t : List Point} {d : Char}
    (member : .char d ∈ lowerAfter afterLetter t) : Settled d := by
  induction t generalizing afterLetter with
  | nil => cases member
  | cons x rest ih =>
      cases x with
      | char c =>
          rw [lowerAfter, List.mem_append] at member
          rcases member with here | behind
          · obtain ⟨e, he, same⟩ := List.mem_map.1 here
            cases same
            exact (settled_lowerChar he).1
          · exact ih behind
      | half n =>
          rw [lowerAfter, List.mem_cons] at member
          rcases member with here | behind
          · cases here
          · exact ih behind

theorem lowerAfter_eq_self {t : List Point} (settled : ∀ c, .char c ∈ t → Settled c)
    (afterLetter : Bool) : lowerAfter afterLetter t = t := by
  induction t generalizing afterLetter with
  | nil => rfl
  | cons x rest ih =>
      have behind := ih fun c member => settled c (List.mem_cons_of_mem _ member)
      cases x with
      | char c =>
          have here := settled c (List.mem_cons_self ..)
          rw [lowerAfter, behind, lowerChar, if_neg here.not_sigma, if_neg here.not_dotted,
            here.lowerSimple_eq]
          rfl
      | half n => rw [lowerAfter, behind]

/-- Lower case is settled in any context, so lower-casing again changes nothing. -/
theorem lower_lower (t : List Point) : lower (lower t) = lower t :=
  lowerAfter_eq_self (fun _ member => settled_of_mem_lowerAfter member) false

theorem lowerChar_ne_nil (afterLetter : Bool) (c : Char) (rest : List Point) :
    lowerChar afterLetter c rest ≠ [] := by
  unfold lowerChar
  split
  · exact List.cons_ne_nil _ _
  · split <;> exact List.cons_ne_nil _ _

theorem lowerAfter_eq_nil_iff {afterLetter : Bool} {t : List Point} :
    lowerAfter afterLetter t = [] ↔ t = [] := by
  cases t with
  | nil => simp [lowerAfter]
  | cons x rest => cases x <;> simp [lowerAfter, lowerChar_ne_nil]

/-- The points of one character's lower case are blank only if the character is. -/
theorem not_blank_of_mem_lowerChar {afterLetter : Bool} {c : Char} {rest : List Point} {x : Point}
    (notBlank : isBlank c = false) (member : x ∈ (lowerChar afterLetter c rest).map Point.char) :
    x.holds isBlank = false := by
  obtain ⟨d, hd, rfl⟩ := List.mem_map.1 member
  exact (settled_lowerChar hd).2 notBlank

/-- A text that starts with no blank still does in lower case. -/
theorem head?_lowerAfter {afterLetter : Bool} {t : List Point}
    (start : ∀ x ∈ t.head?, x.holds isBlank = false) :
    ∀ x ∈ (lowerAfter afterLetter t).head?, x.holds isBlank = false := by
  intro x hx
  cases t with
  | nil => cases hx
  | cons y rest =>
      have notBlank := start y rfl
      cases y with
      | char c =>
          obtain ⟨d, ds, lowered⟩ :=
            List.exists_cons_of_ne_nil (lowerChar_ne_nil afterLetter c rest)
          rw [lowerAfter, lowered, List.map_cons, List.cons_append, List.head?_cons,
            Option.mem_some] at hx
          subst hx
          exact (settled_lowerChar (lowered ▸ List.mem_cons_self ..)).2 notBlank
      | half n =>
          rw [lowerAfter, List.head?_cons, Option.mem_some] at hx
          subst hx
          exact notBlank

/-- A text that ends with no blank still does in lower case. -/
theorem getLast?_lowerAfter {afterLetter : Bool} {t : List Point}
    (last : ∀ x ∈ t.getLast?, x.holds isBlank = false) :
    ∀ x ∈ (lowerAfter afterLetter t).getLast?, x.holds isBlank = false := by
  induction t generalizing afterLetter with
  | nil => intro x hx; cases hx
  | cons y rest ih =>
      intro x hx
      by_cases single : rest = []
      · subst single
        have notBlank := last y rfl
        cases y with
        | char c =>
            rw [lowerAfter, lowerAfter, List.append_nil] at hx
            exact not_blank_of_mem_lowerChar notBlank (List.mem_of_mem_getLast? hx)
        | half n =>
            rw [lowerAfter, lowerAfter, List.getLast?_singleton, Option.mem_some] at hx
            subst hx
            exact notBlank
      · rw [List.getLast?_cons_of_ne_nil single] at last
        cases y with
        | char c =>
            rw [lowerAfter, List.getLast?_append, Option.mem_def, Option.or_eq_some_iff] at hx
            rcases hx with behind | ⟨none, _⟩
            · exact ih last x behind
            · exact absurd (lowerAfter_eq_nil_iff.1 (List.getLast?_eq_none_iff.1 none)) single
        | half n =>
            rw [lowerAfter, List.getLast?_cons_of_ne_nil
              (fun none => single (lowerAfter_eq_nil_iff.1 none))] at hx
            exact ih last x hx

end LinkOwnership.Text

namespace LinkOwnership.Host

open LinkOwnership.Text

/-! ## Hosts -/

theorem normalForm_normalForm (t : List Point) : normalForm (normalForm t) = normalForm t := by
  have trimmed : trim (Point.holds isBlank) (normalForm t) = normalForm t :=
    trim_eq_self _ (head?_lowerAfter (head?_trim _ t)) (getLast?_lowerAfter (getLast?_trim _ t))
  rw [normalForm, trimmed]
  exact lower_lower _

theorem normalize_normalize (host : LooseString) : normalize (normalize host) = normalize host :=
  congrArg LooseString.mk (normalForm_normalForm host.points)

/-- A sigma is final at the end of the last label only, and the normal form keeps it so. -/
example : normalize " ΟΔΟΣ.ΟΔΟΣ " = ("οδοσ.οδος" : LooseString) ∧
    normalize "οδοσ.οδος" = ("οδοσ.οδος" : LooseString) := by decide +kernel

theorem isNormal_normalize (host : LooseString) : IsNormal (normalize host) :=
  normalize_normalize host

theorem isNormal_of_normalize? {host : Option LooseString} {h : LooseString}
    (given : normalize? host = .ok h) : IsNormal h := by
  cases host with
  | none => cases given
  | some spelling =>
      cases given
      exact isNormal_normalize spelling

theorem isNormal_of_key {key : Key} {h : LooseString} (given : key.normalize? = .ok h) :
    IsNormal h := by
  cases key with
  | given host => exact isNormal_of_normalize? given
  | other type which => cases given

end LinkOwnership.Host
