/-
# LinkOwnership.Proofs.OptionGrammar -- how a run of the command line ends

Arguments that are all read spell out values of the one option (`Suggestion.Spelled`): each value is
the argument behind the option, or stands behind its equals sign.  What is accepted is spelled
(`Suggestion.exists_spelled`), and what is spelled is read as its last value
(`Suggestion.valueOfArgs_of_spelled`).

So a run of the command line can break off, and it is known when: the last value is the mark that
ends the options (`CommandLine.run_breaks_off`).  Every other run describes a suggestion, or says why
there is none.
-/
import LinkOwnership.CommandLine
import LinkOwnership.Proofs.Records

namespace LinkOwnership

set_option autoImplicit false

namespace Suggestion

/-! ## The option -/

/-- What stands behind the equals sign, as a value. -/
def OptionValue.ofJoined (value : String) : OptionValue :=
  if value = "--" then .separator else .text value

/-- The arguments spell out values of the option, one after the other. -/
inductive Spelled : List String → List OptionValue → Prop
  | nil : Spelled [] []
  | apart {value : String} {rest : List String} {values : List OptionValue}
      (plain : isOptionLike value = false) (behind : Spelled rest values) :
      Spelled ("--zone_ids" :: value :: rest) (.text value :: values)
  | joined (value : String) {rest : List String} {values : List OptionValue}
      (behind : Spelled rest values) :
      Spelled (("--zone_ids=" ++ value) :: rest) (.ofJoined value :: values)

theorem toList_joined (value : String) :
    ("--zone_ids=" ++ value).toList = zoneOption ++ '=' :: value.toList := by
  rw [String.toList_append]
  rfl

theorem valueBehindEquals?_joined (value : String) :
    valueBehindEquals? ("--zone_ids=" ++ value) = some (.ofJoined value) := by
  have cut : zoneOption ++ '=' :: value.toList = (zoneOption ++ ['=']) ++ value.toList :=
    List.append_cons ..
  have mark : value.toList = ['-', '-'] ↔ value = "--" :=
    ⟨fun given => String.toList_injective given, fun given => given ▸ rfl⟩
  have behind : (zoneOption ++ ['='] ++ value.toList).drop (zoneOption.length + 1) = value.toList :=
    List.drop_left' List.length_append
  rw [valueBehindEquals?, toList_joined, cut, behind,
    List.isPrefixOf_iff_prefix.2 (List.prefix_append ..), if_pos rfl]
  simp only [mark, String.ofList_toList]
  rfl

theorem valueBehindEquals?_bare : valueBehindEquals? "--zone_ids" = none := by
  decide

theorem optionName_joined (value : String) : optionName ("--zone_ids=" ++ value) = zoneOption := by
  have unequal : ∀ c ∈ zoneOption, decide (c ≠ '=') = true := List.all_eq_true.1 (by decide)
  rw [optionName, toList_joined, List.takeWhile_append_of_pos unequal]
  exact List.append_nil zoneOption

theorem isForeign_joined (value : String) : isForeign ("--zone_ids=" ++ value) = false := by
  rw [isForeign, optionName_joined, decide_eq_false (fun apart => apart rfl), Bool.and_false]

/-- An argument that starts like an option is foreign or one of the two forms. -/
theorem eq_of_not_isForeign {arg : String} (optionLike : isOptionLike arg = true)
    (own : isForeign arg = false) :
    arg = "--zone_ids" ∨ ∃ value, arg = "--zone_ids=" ++ value := by
  have name : optionName arg = zoneOption := by
    rw [isForeign, optionLike, Bool.true_and] at own
    exact Decidable.not_not.1 (of_decide_eq_false own)
  have parts : arg.toList = zoneOption ++ arg.toList.dropWhile (· ≠ '=') := by
    rw [← name]
    exact List.takeWhile_append_dropWhile.symm
  cases behind : arg.toList.dropWhile (· ≠ '=') with
  | nil =>
      rw [behind, List.append_nil] at parts
      exact .inl (String.toList_injective parts)
  | cons c value =>
      have mark : c = '=' := by
        have stopped := List.head?_dropWhile_not (· ≠ '=') arg.toList
        rw [behind] at stopped
        exact Decidable.not_not.1 (of_decide_eq_false stopped)
      refine .inr ⟨String.ofList value, String.toList_injective ?_⟩
      rw [parts, behind, mark, toList_joined, String.toList_ofList]

/-- No argument that is part of the spelling is foreign. -/
theorem Spelled.not_isForeign {args : List String} {values : List OptionValue}
    (spelled : Spelled args values) : ∀ arg ∈ args, isForeign arg = false := by
  induction spelled with
  | nil => exact List.forall_mem_nil _
  | apart plain _ ih =>
      refine List.forall_mem_cons.2 ⟨by decide, List.forall_mem_cons.2 ⟨?_, ih⟩⟩
      rw [isForeign, plain, Bool.false_and]
  | joined value _ ih => exact List.forall_mem_cons.2 ⟨isForeign_joined value, ih⟩

/-! ## Going through the arguments -/

section Scan

variable {found after : Found} {value : String} {rest args : List String} {values : List OptionValue}

theorem isOptionLike_joined (value : String) : isOptionLike ("--zone_ids=" ++ value) = true := by
  rw [isOptionLike, toList_joined]
  rfl

theorem scan_joined (found : Found) (value : String) (rest : List String) :
    scan found (("--zone_ids=" ++ value) :: rest) =
      scan { found with value := some (.ofJoined value) } rest := by
  rw [scan.eq_def]
  simp only [isOptionLike_joined, if_true, valueBehindEquals?_joined]

theorem scan_apart (found : Found) {value : String} (plain : isOptionLike value = false)
    (rest : List String) :
    scan found ("--zone_ids" :: value :: rest) =
      scan { found with value := some (.text value) } rest := by
  have optionLike : isOptionLike "--zone_ids" = true := by decide
  rw [scan.eq_def]
  simp only [optionLike, if_true, valueBehindEquals?_bare, plain, Bool.false_eq_true, if_false]

theorem getLast?_cons_or (first : OptionValue) (values : List OptionValue)
    (before : Option OptionValue) :
    (first :: values).getLast?.or before = values.getLast?.or (some first) := by
  rw [List.getLast?_cons, Option.some_or, Option.or_some]

/-- What is spelled is read as its last value. -/
theorem scan_of_spelled (spelled : Spelled args values) (found : Found) :
    scan found args = .ok { found with value := values.getLast?.or found.value } := by
  induction spelled generalizing found with
  | nil => rfl
  | apart plain _ ih =>
      rw [getLast?_cons_or, scan_apart found plain]
      exact ih { found with value := some (.text _) }
  | joined value _ ih =>
      rw [getLast?_cons_or, scan_joined]
      exact ih { found with value := some (.ofJoined value) }

theorem orElse_some_ne_none (stray : Option String) (arg : String) : (stray <|> some arg) ≠ none := by
  cases stray <;> exact nofun

/-- A stray argument is not forgotten. -/
theorem stray_of_scan (done : scan found args = .ok after) (clean : after.stray = none) :
    found.stray = none := by
  fun_induction scan found args
  case case1 =>
    cases done
    exact clean
  case case2 ih => exact ih done
  case case5 ih => exact ih done
  case case6 ih => exact absurd (ih done) (orElse_some_ne_none _ _)
  all_goals cases done

/-- What is read without a stray argument is spelled. -/
theorem exists_spelled (own : ∀ arg ∈ args, isForeign arg = false)
    (done : scan found args = .ok after) (clean : after.stray = none) :
    ∃ values, Spelled args values := by
  fun_induction scan found args
  case case1 => exact ⟨[], .nil⟩
  case case2 arg rest optionLike _ joined ih =>
    obtain ⟨first, behind⟩ := List.forall_mem_cons.1 own
    obtain ⟨values, spelled⟩ := ih behind done
    obtain rfl | ⟨value, rfl⟩ := eq_of_not_isForeign optionLike first
    · cases valueBehindEquals?_bare.symm.trans joined
    · exact ⟨_, .joined value spelled⟩
  case case5 arg optionLike bare value rest plain ih =>
    obtain ⟨first, behind⟩ := List.forall_mem_cons.1 own
    obtain ⟨values, spelled⟩ := ih (List.forall_mem_cons.1 behind).2 done
    obtain rfl | ⟨value, rfl⟩ := eq_of_not_isForeign optionLike first
    · exact ⟨_, .apart (Bool.eq_false_iff.2 plain) spelled⟩
    · cases (valueBehindEquals?_joined value).symm.trans bare
  case case6 => exact absurd (stray_of_scan done clean) (orElse_some_ne_none _ _)
  all_goals cases done

/-- Going through the arguments fails for one cause only. -/
theorem fault_of_scan {fault : OptionFault} (failed : scan found args = .error fault) :
    fault = .noValue := by
  fun_induction scan found args
  case case1 => cases failed
  case case2 ih => exact ih failed
  case case5 ih => exact ih failed
  case case6 ih => exact ih failed
  all_goals
    cases failed
    rfl

end Scan

/-! ## The value that counts -/

/-- What a list of values comes to: the last one counts, and only a text can be used. -/
def lastValue (values : List OptionValue) : Except OptionFault String :=
  match values.getLast? with
  | none => .error .notGiven
  | some .separator => .error .separatorValue
  | some (.text value) => .ok value

theorem valueOfArgs_of_spelled {args : List String} {values : List OptionValue}
    (spelled : Spelled args values) : valueOfArgs args = lastValue values := by
  have own : args.find? isForeign = none := by
    refine List.find?_eq_none.2 fun arg member => ?_
    rw [spelled.not_isForeign arg member]
    exact Bool.false_ne_true
  rw [valueOfArgs, own]
  simp only [scan_of_spelled spelled, bind, Except.bind, Option.or_none, lastValue]
  cases values.getLast? with
  | none => rfl
  | some value => cases value <;> rfl

/-- What the grammar does not turn down is spelled. -/
theorem exists_spelled_of_valueOfArgs {args : List String}
    (read : ∀ fault, valueOfArgs args = .error fault → fault = .separatorValue) :
    ∃ values, Spelled args values := by
  unfold valueOfArgs at read
  split at read
  · cases read _ rfl
  · rename_i own
    cases scanned : scan ⟨none, none⟩ args with
    | error fault =>
        obtain rfl := fault_of_scan scanned
        rw [scanned] at read
        cases read _ rfl
    | ok found =>
        rw [scanned] at read
        have clean : found.stray = none := by
          simp only [bind, Except.bind] at read
          split at read
          · cases read _ rfl
          · cases read _ rfl
          · assumption
          · assumption
        refine exists_spelled (fun arg member => ?_) scanned clean
        exact Bool.eq_false_iff.2 (List.find?_eq_none.1 own arg member)

end Suggestion

namespace CommandLine

open Suggestion (Spelled suggestionOfArgs valueOfArgs lastValue)

/-- The arguments at which a run breaks off: they spell out values, and the last one is the mark that
ends the options. -/
def BreaksOff (args : List String) : Prop :=
  ∃ values, Spelled args values ∧ values.getLast? = some .separator

/-- They are those whose value cannot be used. -/
theorem suggestionOfArgs_eq_separatorValue_iff {args : List String} :
    suggestionOfArgs args = .error .separatorValue ↔ BreaksOff args := by
  rw [suggestionOfArgs, map_eq_error_iff]
  constructor
  · intro broken
    obtain ⟨values, spelled⟩ := Suggestion.exists_spelled_of_valueOfArgs fun fault failed =>
      Except.error.inj (failed.symm.trans broken)
    refine ⟨values, spelled, ?_⟩
    rw [Suggestion.valueOfArgs_of_spelled spelled, lastValue] at broken
    split at broken
    · cases broken
    · assumption
    · cases broken
  · rintro ⟨values, spelled, last⟩
    rw [Suggestion.valueOfArgs_of_spelled spelled, lastValue, last]

theorem run_of_ok {args : List String} {s : Suggestion} (given : suggestionOfArgs args = .ok s) :
    run args = .finished ⟨0, s.describe ++ "\n", ""⟩ := by
  rw [run, given]

theorem run_of_error {args : List String} {fault : OptionFault}
    (failed : suggestionOfArgs args = .error fault) (grammar : fault ≠ .separatorValue) :
    run args = .finished ⟨2, "", "Error: " ++ fault.message ++ "\n" ++ Suggestion.help⟩ := by
  rw [run, failed]
  cases fault with
  | separatorValue => exact absurd rfl grammar
  | unknown arg => rfl
  | noValue => rfl
  | notGiven => rfl

theorem run_of_separatorValue {args : List String}
    (broken : suggestionOfArgs args = .error .separatorValue) :
    run args = .broken .separatorValue := by
  rw [run, broken]

/-- A run breaks off exactly when its arguments spell out values of the option of which the last is
the mark that ends the options.  Any other run ends with status 0, and what it writes is the
description of the suggestion in a line of standard output; or it ends with status 2, and what it
writes is the cause and then the help on standard error. -/
theorem run_breaks_off (args : List String) :
    (run args = .broken .separatorValue ↔ BreaksOff args) ∧
    (run args = .broken .separatorValue ∨
      (∃ s, suggestionOfArgs args = .ok s ∧ run args = .finished ⟨0, s.describe ++ "\n", ""⟩) ∨
      ∃ fault, fault ≠ .separatorValue ∧ suggestionOfArgs args = .error fault ∧
        run args = .finished ⟨2, "", "Error: " ++ fault.message ++ "\n" ++ Suggestion.help⟩) := by
  rw [← suggestionOfArgs_eq_separatorValue_iff]
  cases given : suggestionOfArgs args with
  | ok s =>
      have finished := run_of_ok given
      refine ⟨⟨fun broken => ?_, nofun⟩, .inr (.inl ⟨s, rfl, finished⟩)⟩
      cases finished.symm.trans broken
  | error fault =>
      by_cases grammar : fault = .separatorValue
      · subst grammar
        have broken := run_of_separatorValue given
        exact ⟨⟨fun _ => rfl, fun _ => broken⟩, .inl broken⟩
      · have finished := run_of_error given grammar
        refine ⟨⟨fun broken => ?_, fun same => ?_⟩, .inr (.inr ⟨fault, grammar, rfl, finished⟩)⟩
        · cases finished.symm.trans broken
        · exact absurd (Except.error.inj same) grammar

/-- The mark stands behind the equals sign, and no other value behind it. -/
example : run ["--zone_ids=Etc/UTC", "--zone_ids=--"] = .broken .separatorValue := by decide

end CommandLine

end LinkOwnership
