/-
# LinkOwnership.Proofs.ZoneList -- lists of zones as values of the option

A value that is no keyword lists the pieces between its commas, but for the empty ones.  A list of
names is written with commas between them, and one more comma at the end keeps a single name from
being taken for a keyword.

Commas that part nothing are spare: those at either end, and all but one of a run
(`Suggestion.withoutSpareCommas`).  Without them a value is its list as it would be written
(`Suggestion.intercalate_tokens`), so the list says of a value all but its spare commas
(`Suggestion.zone_lists_as_values`).
-/
import Mathlib.Data.List.Destutter
import Mathlib.Data.List.DropRight
import LinkOwnership.Suggestion.Options

namespace LinkOwnership

set_option autoImplicit false

namespace Suggestion

/-! ## Spare commas -/

/-- Two commas do not follow each other. -/
def Apart (first second : Char) : Prop := ¬ (first = ',' ∧ second = ',')

instance : DecidableRel Apart := fun _ _ => inferInstanceAs (Decidable (¬ _))

/-- A text without the commas at its ends, and with one comma in the place of several. -/
def withoutSpareCommas (t : List Char) : List Char :=
  ((t.rdropWhile (· = ',')).dropWhile (· = ',')).destutter Apart

variable {word t u : List Char}

theorem rdropWhile_append (p : Char → Bool) (t u : List Char) :
    (t ++ u).rdropWhile p = if u.rdropWhile p = [] then t.rdropWhile p else t ++ u.rdropWhile p := by
  simp only [List.rdropWhile, List.reverse_append, List.dropWhile_append, List.isEmpty_iff,
    List.reverse_eq_nil_iff]
  split
  · rfl
  · rw [List.reverse_append, List.reverse_reverse]

theorem rdropWhile_word (plain : ',' ∉ word) : word.rdropWhile (· = ',') = word := by
  refine List.rdropWhile_eq_self_iff.2 fun filled last => plain ?_
  rw [← of_decide_eq_true last]
  exact List.getLast_mem filled

theorem destutter_word (plain : ',' ∉ word) (t : List Char) :
    (word ++ t).destutter Apart = word ++ t.destutter Apart := by
  induction word with
  | nil => rfl
  | cons c rest ih =>
      rw [List.mem_cons, not_or] at plain
      have next := ih plain.2
      rw [List.cons_append, List.cons_append, ← next]
      cases rest ++ t with
      | nil => rfl
      | cons d more =>
          have apart : Apart c d := fun both => plain.1 both.1.symm
          rw [List.destutter_cons_cons, if_pos apart, List.destutter_cons']

theorem destutter_comma (t : List Char) :
    (',' :: t).destutter Apart = ',' :: (t.dropWhile (· = ',')).destutter Apart := by
  induction t with
  | nil => rfl
  | cons c rest ih =>
      rw [List.destutter_cons_cons]
      by_cases comma : c = ','
      · subst comma
        rw [if_neg (fun apart => apart ⟨rfl, rfl⟩), ← List.destutter_cons', ih]
        simp
      · have apart : Apart ',' c := fun both => comma both.2
        rw [if_pos apart]
        simp [comma, List.destutter_cons']

theorem withoutSpareCommas_comma (t : List Char) :
    withoutSpareCommas (',' :: t) = withoutSpareCommas t := by
  have parts := rdropWhile_append (· = ',') [','] t
  rw [List.singleton_append] at parts
  rw [withoutSpareCommas, withoutSpareCommas, parts]
  split
  · rename_i none
    rw [none]
    rfl
  · rfl

theorem withoutSpareCommas_nil : withoutSpareCommas [] = [] := rfl

theorem dropWhile_word (plain : ',' ∉ word) (filled : word ≠ []) (t : List Char) :
    (word ++ t).dropWhile (· = ',') = word ++ t := by
  obtain ⟨c, rest, rfl⟩ := List.exists_cons_of_ne_nil filled
  have first : c ≠ ',' := fun comma => plain (comma ▸ List.mem_cons_self)
  simp [first]

/-- A word stays as it is, and the commas behind it are spare when nothing else follows them. -/
theorem withoutSpareCommas_word_comma (plain : ',' ∉ word) (filled : word ≠ []) (t : List Char) :
    withoutSpareCommas (word ++ ',' :: t) =
      if withoutSpareCommas t = [] then word else word ++ ',' :: withoutSpareCommas t := by
  have cut := rdropWhile_append (· = ',') word (',' :: t)
  have cutBehind := rdropWhile_append (· = ',') [','] t
  have all : withoutSpareCommas t = [] ↔ t.rdropWhile (· = ',') = [] := by
    rw [withoutSpareCommas, List.destutter_eq_nil, List.dropWhile_eq_nil_iff]
    constructor
    · intro commas
      by_contra left
      exact List.rdropWhile_last_not _ _ left (commas _ (List.getLast_mem left))
    · intro nothing
      simp [nothing]
  rw [List.singleton_append] at cutBehind
  rw [cutBehind] at cut
  by_cases spare : t.rdropWhile (· = ',') = []
  · have word_only : (word ++ ',' :: t).rdropWhile (· = ',') = word ++ [] := by
      simpa [spare, rdropWhile_word plain] using cut
    rw [if_pos (all.2 spare), withoutSpareCommas, word_only, dropWhile_word plain filled,
      destutter_word plain, List.destutter_nil, List.append_nil]
  · have kept : (word ++ ',' :: t).rdropWhile (· = ',') =
        word ++ ',' :: t.rdropWhile (· = ',') := by
      simpa [spare] using cut
    rw [if_neg (mt all.1 spare), withoutSpareCommas, kept, dropWhile_word plain filled,
      destutter_word plain, destutter_comma]
    rfl

theorem withoutSpareCommas_word (plain : ',' ∉ word) : withoutSpareCommas word = word := by
  by_cases empty : word = []
  · rw [empty, withoutSpareCommas_nil]
  · rw [withoutSpareCommas, rdropWhile_word plain, ← List.append_nil word,
      dropWhile_word plain empty, destutter_word plain, List.destutter_nil]

/-! ## Pieces between commas -/

theorem splitCommas_eq (t : List Char) : splitCommas t = t.splitOn ',' := by
  induction t with
  | nil => rfl
  | cons c rest ih =>
      rw [List.splitOn_cons_eq_if_modifyHead, ← ih]
      by_cases comma : c = ','
      · subst comma
        rfl
      · obtain ⟨first, more, parts⟩ :=
          List.exists_cons_of_ne_nil (ih ▸ List.splitOn_ne_nil ',' rest : splitCommas rest ≠ [])
        simp [splitCommas, comma, parts]

/-- No piece holds a comma. -/
theorem not_mem_piece {piece : List Char} (member : piece ∈ t.splitOn ',') : ',' ∉ piece := by
  induction t generalizing piece with
  | nil => simp_all
  | cons c rest ih =>
      obtain ⟨first, more, parts⟩ := List.exists_cons_of_ne_nil (List.splitOn_ne_nil ',' rest)
      rw [List.splitOn_cons_eq_if_modifyHead, parts] at member
      rw [parts] at ih
      by_cases comma : c = ','
      · simp only [comma, beq_self_eq_true, if_true, List.mem_cons] at member
        rcases member with rfl | member
        · exact List.not_mem_nil
        · exact ih (List.mem_cons.2 member)
      · have other : ¬ (c == ',') = true := by simpa using comma
        rw [if_neg other, List.modifyHead_cons, List.mem_cons] at member
        rcases member with rfl | member
        · simpa [eq_comm, comma] using ih List.mem_cons_self
        · exact ih (List.mem_cons_of_mem _ member)

theorem tokens_eq (t : List Char) :
    tokens t = (t.splitOn ',').filter fun piece => !piece.isEmpty := by
  rw [tokens, splitCommas_eq]

theorem tokens_append_comma (t u : List Char) : tokens (t ++ ',' :: u) = tokens t ++ tokens u := by
  rw [tokens_eq, List.splitOn_append_cons_self, List.filter_append, ← tokens_eq, ← tokens_eq]

theorem mem_tokens {piece : List Char} (member : piece ∈ tokens t) : piece ≠ [] ∧ ',' ∉ piece := by
  rw [tokens_eq, List.mem_filter] at member
  exact ⟨by simpa using member.2, not_mem_piece member.1⟩

/-- Names between commas are read as these names. -/
theorem tokens_intercalate {names : List (List Char)} (filled : ∀ name ∈ names, name ≠ [])
    (plain : ∀ name ∈ names, ',' ∉ name) : tokens ([','].intercalate names) = names := by
  by_cases empty : names = []
  · subst empty
    rfl
  · rw [tokens_eq, List.splitOn_intercalate ',' plain empty, List.filter_eq_self]
    intro name member
    simpa using filled name member

theorem intercalate_eq_nil_iff {names : List (List Char)} (filled : ∀ name ∈ names, name ≠ []) :
    [','].intercalate names = [] ↔ names = [] := by
  match names with
  | [] => simp
  | [name] => simpa using filled
  | name :: second :: others => simp

/-- Pieces with commas between them: without the empty ones, no comma is spare. -/
theorem withoutSpareCommas_intercalate {pieces : List (List Char)}
    (plain : ∀ piece ∈ pieces, ',' ∉ piece) :
    withoutSpareCommas ([','].intercalate pieces) =
      [','].intercalate (pieces.filter fun piece => !piece.isEmpty) := by
  induction pieces with
  | nil => rfl
  | cons piece rest ih =>
      obtain ⟨first, behind⟩ := List.forall_mem_cons.1 plain
      cases rest with
      | nil =>
          rw [List.intercalate_singleton, withoutSpareCommas_word first]
          by_cases empty : piece = [] <;> simp [empty]
      | cons next more =>
          rw [List.intercalate_cons_cons, List.append_assoc, List.singleton_append]
          by_cases empty : piece = []
          · rw [empty, List.nil_append, withoutSpareCommas_comma, ih behind]
            simp
          · have keep : (piece :: next :: more).filter (fun piece => !piece.isEmpty) =
                piece :: (next :: more).filter fun piece => !piece.isEmpty :=
              List.filter_cons_of_pos (by simpa using empty)
            have listed : ∀ name ∈ (next :: more).filter fun piece => !piece.isEmpty, name ≠ [] :=
              fun name member => by simpa using (List.mem_filter.1 member).2
            rw [withoutSpareCommas_word_comma first empty, ih behind, keep]
            generalize (next :: more).filter (fun piece => !piece.isEmpty) = names at listed ⊢
            cases names with
            | nil => simp
            | cons name others =>
                rw [if_neg (mt (intercalate_eq_nil_iff listed).1 nofun), List.intercalate_cons_cons,
                  List.append_assoc, List.singleton_append]

/-- The list of a value, written with commas, is the value without its spare commas. -/
theorem intercalate_tokens (t : List Char) :
    [','].intercalate (tokens t) = withoutSpareCommas t := by
  rw [tokens_eq, ← withoutSpareCommas_intercalate fun _ => not_mem_piece, List.intercalate_splitOn]

/-! ## Values of the option -/

structure Listable (name : String) : Prop where
  filled : name ≠ ""
  plain : ',' ∉ name.toList

/-- The values that list nothing. -/
def IsKeyword (value : String) : Prop := value = uncertainKeyword ∨ value = emptyKeyword

instance (value : String) : Decidable (IsKeyword value) := inferInstanceAs (Decidable (_ ∨ _))

variable {ids : List String} {value : String}

theorem zonesOfValue_of_list (list : ¬ IsKeyword value) :
    zonesOfValue value = some ((tokens value.toList).map String.ofList) := by
  rw [IsKeyword, not_or] at list
  rw [zonesOfValue, if_neg list.1, if_neg list.2]

/-- A listed name can be listed again. -/
theorem listable_of_token {name : String} (member : name ∈ (tokens value.toList).map String.ofList) :
    Listable name := by
  obtain ⟨piece, token, rfl⟩ := List.mem_map.1 member
  obtain ⟨filled, plain⟩ := mem_tokens token
  refine ⟨fun empty => filled ?_, by rwa [String.toList_ofList]⟩
  simpa using congrArg String.toList empty

theorem toList_intercalate (ids : List String) :
    (",".intercalate ids).toList = [','].intercalate (ids.map String.toList) :=
  String.toList_intercalate

theorem tokens_of_listable (listable : ∀ id ∈ ids, Listable id) :
    (tokens (",".intercalate ids).toList).map String.ofList = ids := by
  have filled : ∀ name ∈ ids.map String.toList, name ≠ [] := by
    simpa using fun id member => (listable id member).filled
  have plain : ∀ name ∈ ids.map String.toList, ',' ∉ name := by
    simpa using fun id member => (listable id member).plain
  rw [toList_intercalate, tokens_intercalate filled plain, List.map_map]
  simp [Function.comp_def]

/-- A list ends up as a keyword only if this is its single name. -/
theorem isKeyword_intercalate_iff (listable : ∀ id ∈ ids, Listable id) :
    IsKeyword (",".intercalate ids) ↔ ids = [uncertainKeyword] ∨ ids = [emptyKeyword] := by
  have listed := tokens_of_listable listable
  constructor
  · rintro (same | same)
    · rw [same] at listed
      exact .inl (listed.symm.trans (by decide))
    · rw [same] at listed
      exact .inr (listed.symm.trans (by decide))
  · rintro (rfl | rfl)
    · exact .inl String.intercalate_singleton
    · exact .inr String.intercalate_singleton

theorem zonesOfValue_intercalate_comma (listable : ∀ id ∈ ids, Listable id) :
    zonesOfValue (",".intercalate ids ++ ",") = some ids := by
  have list : ¬ IsKeyword (",".intercalate ids ++ ",") := by
    have comma : ',' ∈ (",".intercalate ids ++ ",").toList := by simp
    rintro (same | same)
    · rw [same] at comma
      exact absurd comma (by decide)
    · rw [same] at comma
      exact absurd comma (by decide)
  have parts : (",".intercalate ids ++ ",").toList = (",".intercalate ids).toList ++ ',' :: [] :=
    String.toList_append
  rw [zonesOfValue_of_list list, parts, tokens_append_comma]
  exact congrArg Option.some ((congrArg _ (List.append_nil _)).trans (tokens_of_listable listable))

theorem zonesOfValue_intercalate_iff (listable : ∀ id ∈ ids, Listable id) :
    zonesOfValue (",".intercalate ids) = some ids ↔
      ids ≠ [uncertainKeyword] ∧ ids ≠ [emptyKeyword] := by
  rw [← not_or, ← isKeyword_intercalate_iff listable]
  constructor
  · rintro read (keyword | keyword)
    · rw [keyword] at read
      cases read
    · rw [keyword] at read
      obtain rfl : [] = ids := Option.some.inj read
      exact absurd keyword (by decide)
  · intro list
    rw [zonesOfValue_of_list list, tokens_of_listable listable]

/-- Two values list the same when they differ in spare commas only. -/
theorem zonesOfValue_eq_iff {s t : String} (list : ¬ IsKeyword s) (list' : ¬ IsKeyword t) :
    zonesOfValue s = zonesOfValue t ↔ withoutSpareCommas s.toList = withoutSpareCommas t.toList := by
  have read (u : List Char) : tokens ([','].intercalate (tokens u)) = tokens u :=
    tokens_intercalate (fun _ member => (mem_tokens member).1) fun _ member => (mem_tokens member).2
  rw [zonesOfValue_of_list list, zonesOfValue_of_list list', Option.some_inj,
    (List.map_injective_iff.2 fun _ _ => String.ofList_injective).eq_iff, ← intercalate_tokens,
    ← intercalate_tokens]
  constructor
  · intro same
    rw [same]
  · intro same
    rw [← read s.toList, same, read]

/-- A list of names that are not empty and hold no comma is what its value is read as, when the names
are written with commas between them and one more behind them.  Without that comma it is so, too, but
for a single name that is a keyword.  Every value but the keywords is read as such a list, never as
no list; with commas between them, its names give the value without its spare commas.  So two of these
values are read as the same list exactly when they differ in spare commas only. -/
theorem zone_lists_as_values :
    (∀ ids : List String, (∀ id ∈ ids, Listable id) →
      zonesOfValue (",".intercalate ids ++ ",") = some ids ∧
      (zonesOfValue (",".intercalate ids) = some ids ↔
        ids ≠ [uncertainKeyword] ∧ ids ≠ [emptyKeyword])) ∧
    (∀ value : String, ¬ IsKeyword value →
      ∃ ids, zonesOfValue value = some ids ∧ (∀ id ∈ ids, Listable id) ∧
        (",".intercalate ids).toList = withoutSpareCommas value.toList) ∧
    ∀ s t : String, ¬ IsKeyword s → ¬ IsKeyword t →
      (zonesOfValue s = zonesOfValue t ↔
        withoutSpareCommas s.toList = withoutSpareCommas t.toList) := by
  refine ⟨fun ids listable => ⟨zonesOfValue_intercalate_comma listable,
    zonesOfValue_intercalate_iff listable⟩, fun value list => ?_, fun s t => zonesOfValue_eq_iff⟩
  refine ⟨_, zonesOfValue_of_list list, fun id => listable_of_token, ?_⟩
  rw [toList_intercalate, ← intercalate_tokens, List.map_map]
  simp [Function.comp_def]

/-- A zone that is called like a keyword, and a value with spare commas everywhere. -/
theorem zone_lists_as_values_keyword :
    (∀ id ∈ [emptyKeyword], Listable id) ∧ ¬ IsKeyword ",,Asia/Gaza,,Asia/Hebron," ∧
      ¬ IsKeyword "Asia/Gaza,Asia/Hebron" ∧
      zonesOfValue (",".intercalate [emptyKeyword] ++ ",") = some [emptyKeyword] ∧
      zonesOfValue (",".intercalate [emptyKeyword]) ≠ some [emptyKeyword] ∧
      zonesOfValue ",,Asia/Gaza,,Asia/Hebron," = zonesOfValue "Asia/Gaza,Asia/Hebron" := by
  obtain ⟨written, _, alike⟩ := zone_lists_as_values
  have listable : ∀ id ∈ [emptyKeyword], Listable id :=
    List.forall_mem_singleton.2 ⟨by decide, by decide⟩
  have list : ¬ IsKeyword ",,Asia/Gaza,,Asia/Hebron," := by decide
  have list' : ¬ IsKeyword "Asia/Gaza,Asia/Hebron" := by decide
  obtain ⟨behind, plain⟩ := written _ listable
  exact ⟨listable, list, list', behind, fun read => (plain.1 read).2 rfl,
    (alike _ _ list list').2 (by decide)⟩

end Suggestion

end LinkOwnership
