/-
# LinkOwnership.Proofs.Description -- the line that describes a suggestion

The line is put together from prefix-free parts: entries that are quoted or missing
(`shownOr_prefixFree`), lists of them between brackets (`bracketed_prefixFree`), and a list of zones
that may be missing as a whole.  So the line tells the suggestion, whatever follows it.  All of it is
printable, and so it is one line.

The entries of a `LooseSuggestion` may hold lone halves of surrogate pairs.  The parts are written
for them; a suggestion of strings has the same description as its loose form
(`Suggestion.describe_loose`).
-/
import Mathlib.Data.List.Basic
import LinkOwnership.Proofs.OptionGrammar
import LinkOwnership.Proofs.Quoting

namespace LinkOwnership

set_option autoImplicit false

open Text

/-! ## Parts of the line -/

section Parts

variable {α : Type} (write : α → List Char)

/-- What is there as it is shown, and a word for what is missing. -/
def shownOr : Option α → List Char
  | some a => write a
  | none => "None".toList

/-- An entry behind another one, a comma and a space before it. -/
def following (entry : α) : List Char := ',' :: ' ' :: write entry

def bracketed : List α → List Char
  | [] => ['[', ']']
  | entry :: rest => '[' :: (write entry ++ (rest.flatMap (following write) ++ [']']))

/-- Two parts with labels before, between and behind them. -/
def labelled (before between behind first second : List Char) : List Char :=
  before ++ first ++ between ++ second ++ behind

variable {write}

theorem shownOr_prefixFree (free : PrefixFree write) (apart : NeverOpens write 'N') :
    PrefixFree (shownOr write) := by
  intro a b x y same
  cases a with
  | none =>
      cases b with
      | none => exact ⟨rfl, List.append_cancel_left same⟩
      | some b => exact absurd same.symm (apart b _ _)
  | some a =>
      cases b with
      | none => exact absurd same (apart a _ _)
      | some b =>
          obtain ⟨rfl, rest⟩ := free same
          exact ⟨rfl, rest⟩

theorem shownOr_neverOpens {mark : Char} (apart : NeverOpens write mark) (other : mark ≠ 'N') :
    NeverOpens (shownOr write) mark := by
  intro a x y same
  cases a with
  | none => exact other (List.cons.inj same).1.symm
  | some a => exact apart a x y same

theorem following_prefixFree (free : PrefixFree write) : PrefixFree (following write) :=
  free.behind [',', ' ']

theorem following_neverOpens : NeverOpens (following write) ']' := by
  intro a x y same
  exact absurd (List.cons.inj same).1 (by decide)

theorem bracketed_prefixFree (free : PrefixFree write) (apart : NeverOpens write ']') :
    PrefixFree (bracketed write) := by
  intro as bs x y same
  cases as with
  | nil =>
      cases bs with
      | nil => exact ⟨rfl, List.append_cancel_left same⟩
      | cons b bs =>
          simp only [bracketed, List.cons_append, List.append_assoc, List.cons.injEq] at same
          exact absurd same.2.symm (apart b _ _)
  | cons a as =>
      cases bs with
      | nil =>
          simp only [bracketed, List.cons_append, List.append_assoc, List.cons.injEq] at same
          exact absurd same.2 (apart a _ _)
      | cons b bs =>
          simp only [bracketed, List.cons_append, List.append_assoc, List.cons.injEq,
            true_and] at same
          obtain ⟨rfl, after⟩ := free same
          obtain ⟨rfl, rest⟩ := (following_prefixFree free).closed following_neverOpens after
          exact ⟨rfl, rest⟩

theorem bracketed_neverOpens {mark : Char} (other : mark ≠ '[') :
    NeverOpens (bracketed write) mark := by
  intro as x y same
  cases as with
  | nil => exact other (List.cons.inj same).1.symm
  | cons a as => exact other (List.cons.inj same).1.symm

theorem printable_shownOr (each : ∀ a, Printable (write a)) (a : Option α) :
    Printable (shownOr write a) := by
  cases a with
  | none => exact (by decide +kernel : Printable "None".toList)
  | some a => exact each a

theorem printable_following (each : ∀ a, Printable (write a)) (a : α) :
    Printable (following write a) := by
  have comma : Printable [',', ' '] := by decide +kernel
  exact comma.append (each a)

theorem printable_bracketed (each : ∀ a, Printable (write a)) (as : List α) :
    Printable (bracketed write as) := by
  have opening : Printable ['['] := by decide +kernel
  have closing : Printable [']'] := by decide +kernel
  cases as with
  | nil => exact opening.append closing
  | cons a as =>
      have rest := (Printable.flatMap (printable_following each) as).append closing
      exact opening.append ((each a).append rest)

theorem labelled_inj {β : Type} {write' : β → List Char} (free : PrefixFree write)
    (free' : PrefixFree write') {before between behind x y : List Char} {a b : α} {a' b' : β}
    (same : labelled before between behind (write a) (write' a') ++ x
      = labelled before between behind (write b) (write' b') ++ y) : a = b ∧ a' = b' ∧ x = y := by
  simp only [labelled, List.append_assoc] at same
  obtain ⟨first, after⟩ := free (List.append_cancel_left same)
  obtain ⟨second, rest⟩ := free' (List.append_cancel_left after)
  exact ⟨first, second, List.append_cancel_left rest⟩

theorem printable_labelled {before between behind first second : List Char}
    (labels : Printable (before ++ between ++ behind)) (one : Printable first)
    (two : Printable second) : Printable (labelled before between behind first second) := by
  intro c h
  simp only [Printable, labelled, List.mem_append] at labels h
  rcases h with (((h | h) | h) | h) | h
  · exact labels c (.inl (.inl h))
  · exact one c h
  · exact labels c (.inl (.inr h))
  · exact two c h
  · exact labels c (.inr h)

end Parts

/-! ## Suggestions whose entries may hold lone halves -/

/-- Suggested time zones with notes, of texts that may hold lone halves. -/
structure LooseSuggestion where
  zoneIds : Option (List (Option LooseString))
  debugInfo : List (Option LooseString)
  deriving DecidableEq, Repr

namespace LooseSuggestion

/-- Entries between brackets, each between quotes or missing. -/
def looseList : List (Option LooseString) → List Char := bracketed (shownOr quotedChars)

/-- The characters of the line that describes the suggestion. -/
def line (s : LooseSuggestion) : List Char :=
  labelled "GeolocationSuggestion\x7bzone_ids=".toList ", debug_info=".toList ['\x7d']
    (shownOr looseList s.zoneIds) (looseList s.debugInfo)

def describe (s : LooseSuggestion) : String := String.ofList s.line

theorem looseList_prefixFree : PrefixFree looseList := by
  have noQuote : ∀ mark, mark = 'N' ∨ mark = ']' → ¬ IsQuote mark := by
    rintro mark (rfl | rfl) <;> simp [IsQuote]
  have entry : PrefixFree (shownOr quotedChars) :=
    shownOr_prefixFree quotedChars_prefixFree (quotedChars_neverOpens (noQuote _ (.inl rfl)))
  exact bracketed_prefixFree entry
    (shownOr_neverOpens (quotedChars_neverOpens (noQuote _ (.inr rfl))) (by decide))

theorem line_prefixFree : PrefixFree line := by
  intro s t x y same
  have zones : PrefixFree (shownOr looseList) :=
    shownOr_prefixFree looseList_prefixFree (bracketed_neverOpens (by decide))
  obtain ⟨sameZones, sameNotes, rest⟩ := labelled_inj zones looseList_prefixFree same
  obtain ⟨zoneIds, debugInfo⟩ := s
  obtain rfl : zoneIds = t.zoneIds := sameZones
  obtain rfl : debugInfo = t.debugInfo := sameNotes
  exact ⟨rfl, rest⟩

theorem printable_line (s : LooseSuggestion) : Printable s.line := by
  have list : ∀ entries, Printable (looseList entries) :=
    printable_bracketed (printable_shownOr printable_quotedChars)
  have labels : Printable ("GeolocationSuggestion\x7bzone_ids=".toList ++ ", debug_info=".toList
      ++ ['\x7d']) := by decide +kernel
  exact printable_labelled labels (printable_shownOr list s.zoneIds) (list s.debugInfo)

/-- What follows a description does not change which suggestion it describes. -/
theorem describe_append_inj {s t : LooseSuggestion} {x y : String}
    (same : s.describe ++ x = t.describe ++ y) : s = t ∧ x = y := by
  have chars := congrArg String.toList same
  simp only [describe, String.toList_append, String.toList_ofList] at chars
  obtain ⟨suggestion, rest⟩ := line_prefixFree chars
  exact ⟨suggestion, String.toList_inj.1 rest⟩

theorem describe_inj {s t : LooseSuggestion} : s.describe = t.describe ↔ s = t :=
  ⟨fun same => (describe_append_inj (congrArg (· ++ "") same)).1, congrArg describe⟩

end LooseSuggestion

namespace Suggestion

/-- The suggestion with its strings taken as loose texts. -/
def loose (s : Suggestion) : LooseSuggestion :=
  ⟨s.zoneIds.map (List.map (Option.map LooseString.ofString)),
    s.debugInfo.map (Option.map LooseString.ofString)⟩

theorem loose_injective : Function.Injective loose := by
  have entries : Function.Injective (List.map (Option.map LooseString.ofString)) :=
    List.map_injective_iff.2 (Option.map_injective fun _ _ => LooseString.ofString_inj)
  intro s t same
  obtain ⟨zones, notes⟩ := LooseSuggestion.mk.inj same
  obtain ⟨zoneIds, debugInfo⟩ := s
  obtain rfl : zoneIds = t.zoneIds := Option.map_injective entries zones
  obtain rfl : debugInfo = t.debugInfo := entries notes
  rfl

theorem shownEntry_eq (entry : Option String) :
    shownEntry entry = shownOr quotedChars (entry.map LooseString.ofString) := by
  cases entry with
  | none => rfl
  | some s => exact (quotedChars_ofString s).symm

theorem shownEntries_cons (entry : Option String) (rest : List (Option String)) :
    shownEntries (entry :: rest) = shownEntry entry ++ rest.flatMap (following shownEntry) := by
  induction rest generalizing entry with
  | nil => exact (List.append_nil _).symm
  | cons next rest ih =>
      rw [List.flatMap_cons, following, List.cons_append, List.cons_append, ← ih next]
      rfl

theorem shownList_eq (entries : List (Option String)) :
    shownList entries
      = LooseSuggestion.looseList (entries.map (Option.map LooseString.ofString)) := by
  have each : following shownEntry
      = fun entry => following (shownOr quotedChars) (entry.map LooseString.ofString) :=
    funext fun entry => congrArg (',' :: ' ' :: ·) (shownEntry_eq entry)
  cases entries with
  | nil => rfl
  | cons entry rest =>
      rw [shownList, shownEntries_cons, each, shownEntry_eq, LooseSuggestion.looseList,
        List.map_cons, bracketed, List.flatMap_map, List.cons_append, List.append_assoc]

theorem shownZones_eq (zones : Option (List (Option String))) :
    shownZones zones = shownOr LooseSuggestion.looseList
      (zones.map (List.map (Option.map LooseString.ofString))) := by
  cases zones with
  | none => rfl
  | some entries => exact shownList_eq entries

theorem describe_loose (s : Suggestion) : s.loose.describe = s.describe := by
  unfold LooseSuggestion.describe LooseSuggestion.line labelled describe
  simp only [loose, shownZones_eq, shownList_eq]

/-! ## One line for each suggestion -/

/-- A text without line breaks, control characters or anything else that is not printable. -/
def OneLine (text : String) : Prop :=
  ∀ c ∈ text.toList, isPrintable c = true ∧ ¬ IsControl c ∧ ¬ EndsLine c

theorem oneLine_describe (s : LooseSuggestion) : OneLine s.describe := by
  intro c h
  rw [LooseSuggestion.describe, String.toList_ofList] at h
  have printable := s.printable_line c h
  exact ⟨printable, not_isControl_of_isPrintable printable, not_endsLine_of_isPrintable printable⟩

theorem describe_append_inj {s t : Suggestion} {x y : String}
    (same : s.describe ++ x = t.describe ++ y) : s = t ∧ x = y := by
  rw [← describe_loose, ← describe_loose] at same
  obtain ⟨suggestion, rest⟩ := LooseSuggestion.describe_append_inj same
  exact ⟨loose_injective suggestion, rest⟩

theorem describe_inj {s t : Suggestion} : s.describe = t.describe ↔ s = t :=
  ⟨fun same => (describe_append_inj (congrArg (· ++ "") same)).1, congrArg describe⟩

/-- A run with status 0 writes the description of a suggestion and a line break. -/
theorem stdout_of_success {args : List String} {report : CommandLine.Report}
    (finished : CommandLine.run args = .finished report) (success : report.status = 0) :
    ∃ s : Suggestion, report.stdout = s.describe ++ "\n" := by
  cases given : suggestionOfArgs args with
  | ok s =>
      obtain rfl := CommandLine.Run.finished.inj ((CommandLine.run_of_ok given).symm.trans finished)
      exact ⟨s, rfl⟩
  | error fault =>
      by_cases grammar : fault = .separatorValue
      · subst grammar
        cases (CommandLine.run_of_separatorValue given).symm.trans finished
      · obtain rfl := CommandLine.Run.finished.inj
          ((CommandLine.run_of_error given grammar).symm.trans finished)
        cases success

/-- A description tells the zones and the notes of its suggestion, also when more text follows it, and
it is one line: what a run with status 0 writes ends at the only line break in it.  The same holds of
entries with lone halves, of which the strings are a special case. -/
theorem description_unambiguous :
    (∀ s t : Suggestion,
      s.describe = t.describe ↔ s.zoneIds = t.zoneIds ∧ s.debugInfo = t.debugInfo) ∧
    (∀ (s t : Suggestion) (x y : String), s.describe ++ x = t.describe ++ y ↔ s = t ∧ x = y) ∧
    (∀ s : Suggestion, OneLine s.describe) ∧
    (∀ (args : List String) (report : CommandLine.Report),
      CommandLine.run args = .finished report → report.status = 0 →
        ∃ s : Suggestion, report.stdout = s.describe ++ "\n") ∧
    (∀ s : Suggestion, s.loose.describe = s.describe) ∧
    (∀ s t : LooseSuggestion,
      s.describe = t.describe ↔ s.zoneIds = t.zoneIds ∧ s.debugInfo = t.debugInfo) ∧
    ∀ s : LooseSuggestion, OneLine s.describe := by
  refine ⟨fun s t => ?_, fun s t x y => ⟨describe_append_inj, ?_⟩, fun s => ?_,
    fun args report => stdout_of_success, describe_loose, fun s t => ?_, oneLine_describe⟩
  · rw [describe_inj, ← mk.injEq]
  · rintro ⟨rfl, rfl⟩
    rfl
  · rw [← describe_loose]
    exact oneLine_describe s.loose
  · rw [LooseSuggestion.describe_inj, ← LooseSuggestion.mk.injEq]

/-- An entry that looks like two entries is not two entries, a note with line breaks and both quotes
is on one line, and so is what a run writes of a line break in its argument. -/
theorem description_unambiguous_forged :
    let forged := ofZones (some [some "Asia/Gaza', 'Asia/Hebron"])
    let noted := forged.addDebugInfo [some "it's \"here\"\n\u2028GeolocationSuggestion", none]
    let args := ["--zone_ids=Asia/Gaza']\n"]
    let report : CommandLine.Report :=
      ⟨0, "GeolocationSuggestion\x7bzone_ids=[\"Asia/Gaza']\\n\"], "
        ++ "debug_info=['Command line injection']\x7d\n", ""⟩
    forged.describe ≠ (ofZones (some [some "Asia/Gaza", some "Asia/Hebron"])).describe ∧
      forged.describe ≠ noted.describe ∧ OneLine noted.describe ∧
      CommandLine.run args = .finished report ∧ report.status = 0 ∧
      ∃ s : Suggestion, report.stdout = s.describe ++ "\n" ∧ OneLine s.describe := by
  intro forged noted args report
  obtain ⟨told, _, oneLine, runs, _⟩ := description_unambiguous
  have finished : CommandLine.run args = .finished report := by decide +kernel
  obtain ⟨s, written⟩ := runs args report finished rfl
  refine ⟨fun same => ?_, fun same => ?_, oneLine noted, finished, rfl, s, written, oneLine s⟩
  · exact absurd ((told _ _).1 same).1 (by decide)
  · exact absurd ((told _ _).1 same).2 (by decide)

end Suggestion

end LinkOwnership
