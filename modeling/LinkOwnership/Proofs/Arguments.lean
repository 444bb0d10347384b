/-
# LinkOwnership.Proofs.Arguments -- which arguments give a suggestion

The grammar of the arguments is said of their places (`Suggestion.WellFormed`): what starts like an
option is the option, each option without an equals sign has its value behind it, and no other
argument stands anywhere else.  These are the arguments that spell out a value or more
(`Suggestion.wellFormed_iff_spelled`), because a spelling can be cut in front of each option
(`Suggestion.Spelled.cut`).

So the arguments are accepted exactly when they are well-formed, the last value counts, and the first
foreign argument is the one that is named (`Suggestion.accepted_exactly`).  The mark that ends the
options is left out here: it is no text, and no argument for the grammar.
-/
import LinkOwnership.Proofs.OptionGrammar

namespace LinkOwnership

set_option autoImplicit false

namespace Suggestion

/-! ## The grammar -/

/-- The option, alone or with a value behind its equals sign. -/
def IsOption (arg : String) : Prop := arg = "--zone_ids" ∨ ∃ value, arg = "--zone_ids=" ++ value

structure WellPlaced (args : List String) : Prop where
  /-- Only the option starts like an option. -/
  known : ∀ arg ∈ args, isOptionLike arg = true → IsOption arg
  /-- The option alone is followed by its value. -/
  followed : ∀ i : Nat, args[i]? = some "--zone_ids" →
    ∃ value, args[i + 1]? = some value ∧ isOptionLike value = false
  /-- Every other argument follows the option alone. -/
  led : ∀ (i : Nat) (value : String), args[i]? = some value → isOptionLike value = false →
    ∃ j, i = j + 1 ∧ args[j]? = some "--zone_ids"

/-- Every argument has its place, and the option is there. -/
structure WellFormed (args : List String) : Prop extends WellPlaced args where
  given : ∃ arg ∈ args, IsOption arg

def IsLastValue (args : List String) (value : String) : Prop :=
  ∃ before after,
    (args = before ++ "--zone_ids" :: value :: after ∨
      args = before ++ ("--zone_ids=" ++ value) :: after) ∧
      ∀ arg ∈ after, ¬ IsOption arg

variable {args rest : List String} {values : List OptionValue} {arg value : String}

theorem isOptionLike_bare : isOptionLike "--zone_ids" = true := by decide

theorem IsOption.isOptionLike (option : IsOption arg) : isOptionLike arg = true := by
  rcases option with rfl | ⟨value, rfl⟩
  · exact isOptionLike_bare
  · exact isOptionLike_joined value

theorem joined_ne_bare (value : String) : "--zone_ids=" ++ value ≠ "--zone_ids" := by
  intro same
  have absent := valueBehindEquals?_bare
  rw [← same, valueBehindEquals?_joined] at absent
  cases absent

/-- A foreign argument starts like an option and is not the option. -/
theorem isForeign_iff : isForeign arg = true ↔ isOptionLike arg = true ∧ ¬ IsOption arg := by
  constructor
  · intro foreign
    refine ⟨(Bool.and_eq_true_iff.1 foreign).1, ?_⟩
    rintro (rfl | ⟨value, rfl⟩)
    · exact absurd foreign (by decide)
    · exact absurd foreign (by rw [isForeign_joined]; exact Bool.false_ne_true)
  · rintro ⟨optionLike, other⟩
    refine Classical.byContradiction fun own => ?_
    exact other (eq_of_not_isForeign optionLike (Bool.eq_false_iff.2 own))

/-! ## Well-formed arguments are spelled -/

namespace WellPlaced

theorem behind_joined (placed : WellPlaced (("--zone_ids=" ++ value) :: rest)) :
    WellPlaced rest where
  known arg member := placed.known arg (.tail _ member)
  followed i here := placed.followed (i + 1) here
  led i plain here unlike := by
    obtain ⟨j, next, before⟩ := placed.led (i + 1) plain here unlike
    obtain rfl : i = j := Nat.succ.inj next
    cases i with
    | zero => exact absurd (Option.some.inj before) (joined_ne_bare value)
    | succ j => exact ⟨j, rfl, before⟩

theorem behind_apart (placed : WellPlaced ("--zone_ids" :: value :: rest))
    (unlike : isOptionLike value = false) : WellPlaced rest where
  known arg member := placed.known arg (.tail _ (.tail _ member))
  followed i here := placed.followed (i + 2) here
  led i plain here other := by
    obtain ⟨j, next, before⟩ := placed.led (i + 2) plain here other
    obtain rfl : j = i + 1 := by omega
    cases i with
    | zero =>
        obtain rfl : value = "--zone_ids" := Option.some.inj before
        cases unlike.symm.trans isOptionLike_bare
    | succ j => exact ⟨j, rfl, before⟩

/-- The arguments are read from the front, an option with its value at a time. -/
theorem exists_spelled : ∀ {args : List String}, WellPlaced args → ∃ values, Spelled args values
  | [], _ => ⟨[], .nil⟩
  | first :: rest, placed => by
      cases unlike : isOptionLike first with
      | false =>
          obtain ⟨j, impossible, _⟩ := placed.led 0 first rfl unlike
          cases impossible
      | true =>
          rcases placed.known first List.mem_cons_self unlike with rfl | ⟨value, rfl⟩
          · obtain ⟨value, next, plain⟩ := placed.followed 0 rfl
            cases rest with
            | nil => cases next
            | cons second rest =>
                obtain rfl : second = value := Option.some.inj next
                obtain ⟨values, spelled⟩ := (placed.behind_apart plain).exists_spelled
                exact ⟨_, .apart plain spelled⟩
          · obtain ⟨values, spelled⟩ := placed.behind_joined.exists_spelled
            exact ⟨_, .joined value spelled⟩
termination_by args => args.length

end WellPlaced

namespace Spelled

theorem wellPlaced (spelled : Spelled args values) : WellPlaced args := by
  induction spelled with
  | nil => exact ⟨nofun, nofun, nofun⟩
  | @apart value rest values plain _ ih =>
      refine ⟨fun arg member optionLike => ?_, fun i here => ?_, fun i other here unlike => ?_⟩
      · rcases List.mem_cons.1 member with rfl | member
        · exact .inl rfl
        · rcases List.mem_cons.1 member with rfl | member
          · cases plain.symm.trans optionLike
          · exact ih.known arg member optionLike
      · match i, here with
        | 0, _ => exact ⟨value, rfl, plain⟩
        | 1, here =>
            obtain rfl : value = "--zone_ids" := Option.some.inj here
            cases plain.symm.trans isOptionLike_bare
        | i + 2, here => exact ih.followed i here
      · match i, here with
        | 0, here =>
            obtain rfl : "--zone_ids" = other := Option.some.inj here
            cases unlike.symm.trans isOptionLike_bare
        | 1, _ => exact ⟨0, rfl, rfl⟩
        | i + 2, here =>
            obtain ⟨j, rfl, before⟩ := ih.led i other here unlike
            exact ⟨j + 2, rfl, before⟩
  | @joined value rest values _ ih =>
      refine ⟨fun arg member optionLike => ?_, fun i here => ?_, fun i other here unlike => ?_⟩
      · rcases List.mem_cons.1 member with rfl | member
        · exact .inr ⟨value, rfl⟩
        · exact ih.known arg member optionLike
      · match i, here with
        | 0, here => exact absurd (Option.some.inj here) (joined_ne_bare value)
        | i + 1, here => exact ih.followed i here
      · match i, here with
        | 0, here =>
            obtain rfl : "--zone_ids=" ++ value = other := Option.some.inj here
            cases unlike.symm.trans (isOptionLike_joined value)
        | i + 1, here =>
            obtain ⟨j, rfl, before⟩ := ih.led i other here unlike
            exact ⟨j + 1, rfl, before⟩

/-- What is spelled starts with an option. -/
theorem given_iff (spelled : Spelled args values) :
    (∃ arg ∈ args, IsOption arg) ↔ values ≠ [] := by
  cases spelled with
  | nil => simp
  | apart plain behind => simp [IsOption]
  | joined value behind => simp [IsOption]

/-- The option alone takes the next argument. -/
theorem inv_bare (spelled : Spelled ("--zone_ids" :: rest) values) :
    ∃ value behind others, rest = value :: behind ∧ values = .text value :: others ∧
      Spelled behind others := by
  generalize same : "--zone_ids" :: rest = args at spelled
  cases spelled with
  | nil => cases same
  | @apart value behind others plain spelled =>
      obtain ⟨_, rfl⟩ := List.cons.inj same
      exact ⟨value, behind, others, rfl, rfl, spelled⟩
  | joined value _ => exact absurd (List.cons.inj same).1.symm (joined_ne_bare value)

/-- The option with an equals sign stands for itself. -/
theorem inv_joined (spelled : Spelled (("--zone_ids=" ++ value) :: rest) values) :
    ∃ others, values = .ofJoined value :: others ∧ Spelled rest others := by
  generalize same : ("--zone_ids=" ++ value) :: rest = args at spelled
  cases spelled with
  | nil => cases same
  | apart _ _ => exact absurd (List.cons.inj same).1 (joined_ne_bare value)
  | @joined value' behind others spelled =>
      obtain ⟨first, rfl⟩ := List.cons.inj same
      obtain rfl : value = value' := by simpa using first
      exact ⟨others, rfl, spelled⟩

/-- A spelling can be cut in front of an option: no option is the value of another one. -/
theorem cut (spelled : Spelled args values) {before after : List String} (option : IsOption arg)
    (parts : args = before ++ arg :: after) :
    ∃ front back, values = front ++ back ∧ Spelled (arg :: after) back := by
  induction spelled generalizing before with
  | nil => simp at parts
  | @apart value rest values plain behind ih =>
      match before with
      | [] =>
          obtain ⟨rfl, rfl⟩ := List.cons.inj parts
          exact ⟨[], _, rfl, .apart plain behind⟩
      | [_] =>
          obtain ⟨_, parts⟩ := List.cons.inj parts
          obtain ⟨rfl, rfl⟩ := List.cons.inj parts
          cases plain.symm.trans option.isOptionLike
      | _ :: _ :: before =>
          obtain ⟨_, parts⟩ := List.cons.inj parts
          obtain ⟨_, parts⟩ := List.cons.inj parts
          obtain ⟨front, back, rfl, cut⟩ := ih parts
          exact ⟨_ :: front, back, rfl, cut⟩
  | @joined value rest values behind ih =>
      match before with
      | [] =>
          obtain ⟨rfl, rfl⟩ := List.cons.inj parts
          exact ⟨[], _, rfl, .joined value behind⟩
      | _ :: before =>
          obtain ⟨_, parts⟩ := List.cons.inj parts
          obtain ⟨front, back, rfl, cut⟩ := ih parts
          exact ⟨_ :: front, back, rfl, cut⟩

theorem eq_nil_of_no_option (spelled : Spelled args values) (none : ∀ arg ∈ args, ¬ IsOption arg) :
    values = [] := by
  refine Classical.byContradiction fun some => ?_
  obtain ⟨arg, member, option⟩ := spelled.given_iff.2 some
  exact none arg member option

/-- The value of the last option is the last value that is spelled, unless it is the mark. -/
theorem getLast?_of_isLastValue (spelled : Spelled args values) (unmarked : "--zone_ids=--" ∉ args)
    (last : IsLastValue args value) : values.getLast? = some (.text value) := by
  obtain ⟨before, after, parts | parts, noOther⟩ := last
  · obtain ⟨front, back, rfl, cut⟩ := spelled.cut (.inl rfl) parts
    obtain ⟨_, _, others, same, rfl, behind⟩ := cut.inv_bare
    obtain ⟨rfl, rfl⟩ := List.cons.inj same
    rw [behind.eq_nil_of_no_option noOther, List.getLast?_concat]
  · obtain ⟨front, back, rfl, cut⟩ := spelled.cut (.inr ⟨value, rfl⟩) parts
    obtain ⟨others, rfl, behind⟩ := cut.inv_joined
    have text : value ≠ "--" := by
      rintro rfl
      exact unmarked (parts ▸ List.mem_append_right _ List.mem_cons_self)
    rw [behind.eq_nil_of_no_option noOther, List.getLast?_concat, OptionValue.ofJoined,
      if_neg text]

/-- Only the mark behind the equals sign is no text. -/
theorem mark_mem (spelled : Spelled args values) (mark : .separator ∈ values) :
    "--zone_ids=--" ∈ args := by
  induction spelled with
  | nil => cases mark
  | apart plain _ ih =>
      exact .tail _ (.tail _ (ih ((List.mem_cons.1 mark).resolve_left nofun)))
  | joined value _ ih =>
      rcases List.mem_cons.1 mark with here | later
      · rw [OptionValue.ofJoined] at here
        split at here
        · rename_i same
          subst same
          exact List.mem_cons_self
        · cases here
      · exact .tail _ (ih later)

end Spelled

theorem IsLastValue.behind (front : List String) (last : IsLastValue rest value) :
    IsLastValue (front ++ rest) value := by
  obtain ⟨before, after, parts, noOther⟩ := last
  refine ⟨front ++ before, after, ?_, noOther⟩
  rcases parts with rfl | rfl
  · exact .inl (List.append_assoc ..).symm
  · exact .inr (List.append_assoc ..).symm

theorem Spelled.isLastValue (spelled : Spelled args values)
    (last : values.getLast? = some (.text value)) : IsLastValue args value := by
  induction spelled with
  | nil => cases last
  | @apart plain rest values _ behind ih =>
      cases values with
      | nil =>
          cases behind
          cases last
          exact ⟨[], [], .inl rfl, List.forall_mem_nil _⟩
      | cons next others =>
          rw [List.getLast?_cons_cons] at last
          exact (ih last).behind ["--zone_ids", plain]
  | @joined plain rest values behind ih =>
      cases values with
      | nil =>
          cases behind
          rw [List.getLast?_singleton, OptionValue.ofJoined] at last
          split at last
          · cases last
          · cases last
            exact ⟨[], [], .inr rfl, List.forall_mem_nil _⟩
      | cons next others =>
          rw [List.getLast?_cons_cons] at last
          exact (ih last).behind ["--zone_ids=" ++ plain]

theorem wellFormed_iff_spelled : WellFormed args ↔ ∃ values, Spelled args values ∧ values ≠ [] := by
  constructor
  · rintro ⟨placed, given⟩
    obtain ⟨values, spelled⟩ := placed.exists_spelled
    exact ⟨values, spelled, spelled.given_iff.1 given⟩
  · rintro ⟨values, spelled, filled⟩
    exact ⟨spelled.wellPlaced, spelled.given_iff.2 filled⟩

/-! ## What is accepted -/

theorem lastValue_eq_ok_iff :
    lastValue values = .ok value ↔ values.getLast? = some (.text value) := by
  unfold lastValue
  cases values.getLast? with
  | none => simp
  | some last => cases last <;> simp

theorem valueOfArgs_eq_ok_iff :
    valueOfArgs args = .ok value ↔
      ∃ values, Spelled args values ∧ values.getLast? = some (.text value) := by
  constructor
  · intro read
    have told : ∀ fault, valueOfArgs args = .error fault → fault = .separatorValue := by
      intro fault failed
      cases failed.symm.trans read
    obtain ⟨values, spelled⟩ := exists_spelled_of_valueOfArgs told
    rw [valueOfArgs_of_spelled spelled, lastValue_eq_ok_iff] at read
    exact ⟨values, spelled, read⟩
  · rintro ⟨values, spelled, last⟩
    rw [valueOfArgs_of_spelled spelled, lastValue_eq_ok_iff]
    exact last

theorem suggestionOfArgs_eq_ok_iff {s : Suggestion} :
    suggestionOfArgs args = .ok s ↔ ∃ value, valueOfArgs args = .ok value ∧
      s = ⟨(zonesOfValue value).map (·.map some), [some commandLineNote]⟩ := by
  rw [suggestionOfArgs]
  cases valueOfArgs args with
  | error fault => simp [Except.map]
  | ok value => simp [Except.map, ofZones, addDebugInfo, eq_comm]

/-- Arguments that give no suggestion are turned down by the grammar, if the mark is not among them. -/
theorem ne_separatorValue (unmarked : "--zone_ids=--" ∉ args) :
    suggestionOfArgs args ≠ .error .separatorValue := by
  rw [Ne, CommandLine.suggestionOfArgs_eq_separatorValue_iff]
  rintro ⟨values, spelled, last⟩
  exact unmarked (spelled.mark_mem (List.mem_of_getLast? last))

/-- The first foreign argument is named, whatever else is wrong. -/
theorem suggestionOfArgs_of_foreign {before after : List String}
    (optionLike : isOptionLike arg = true) (other : ¬ IsOption arg)
    (own : ∀ a ∈ before, isOptionLike a = true → IsOption a) :
    suggestionOfArgs (before ++ arg :: after) = .error (.unknown arg) := by
  have found : (before ++ arg :: after).find? isForeign = some arg := by
    refine List.find?_eq_some_iff_append.2
      ⟨isForeign_iff.2 ⟨optionLike, other⟩, before, after, rfl, ?_⟩
    intro a member
    have plain : ¬ isForeign a = true := fun foreign =>
      (isForeign_iff.1 foreign).2 (own a member (isForeign_iff.1 foreign).1)
    simpa using plain
  rw [suggestionOfArgs, valueOfArgs, found]
  rfl

theorem exists_suggestion_iff (unmarked : "--zone_ids=--" ∉ args) :
    (∃ s, suggestionOfArgs args = .ok s) ↔ WellFormed args := by
  rw [wellFormed_iff_spelled]
  constructor
  · rintro ⟨s, accepted⟩
    obtain ⟨value, read, _⟩ := suggestionOfArgs_eq_ok_iff.1 accepted
    obtain ⟨values, spelled, last⟩ := valueOfArgs_eq_ok_iff.1 read
    refine ⟨values, spelled, ?_⟩
    rintro rfl
    cases last
  · rintro ⟨values, spelled, filled⟩
    obtain ⟨last, counts⟩ := Option.ne_none_iff_exists'.1 (mt List.getLast?_eq_none_iff.1 filled)
    cases last with
    | text value =>
        exact ⟨_, suggestionOfArgs_eq_ok_iff.2
          ⟨value, valueOfArgs_eq_ok_iff.2 ⟨values, spelled, counts⟩, rfl⟩⟩
    | separator => exact absurd (spelled.mark_mem (List.mem_of_getLast? counts)) unmarked

/-- Arguments give a suggestion exactly when they are well-formed.  The last value is the one that its
zones are read from, and its only note is that it was given on the command line.  All other arguments
are turned down by the grammar; if one of them starts like an option and is none, the message names
the first such argument.  The mark behind the equals sign is not looked at. -/
theorem accepted_exactly (args : List String) (unmarked : "--zone_ids=--" ∉ args) :
    ((∃ s, suggestionOfArgs args = .ok s) ↔ WellFormed args) ∧
    (∀ s, suggestionOfArgs args = .ok s →
      (∃ value, IsLastValue args value) ∧ ∀ value, IsLastValue args value →
        s.zoneIds = (zonesOfValue value).map (·.map some) ∧ s.debugInfo = [some commandLineNote]) ∧
    (¬ WellFormed args → ∃ fault, suggestionOfArgs args = .error fault ∧ fault ≠ .separatorValue) ∧
    ∀ (before : List String) (arg : String) (after : List String),
      args = before ++ arg :: after → isOptionLike arg = true → ¬ IsOption arg →
        (∀ a ∈ before, isOptionLike a = true → IsOption a) →
          ∃ fault, suggestionOfArgs args = .error fault ∧ fault ≠ .separatorValue ∧
            fault.message = "Unknown option: " ++ arg := by
  have accepted := exists_suggestion_iff unmarked
  refine ⟨accepted, fun s given => ?_, fun malformed => ?_, ?_⟩
  · obtain ⟨value, read, rfl⟩ := suggestionOfArgs_eq_ok_iff.1 given
    obtain ⟨values, spelled, last⟩ := valueOfArgs_eq_ok_iff.1 read
    refine ⟨⟨value, spelled.isLastValue last⟩, fun other otherLast => ?_⟩
    have same := (spelled.getLast?_of_isLastValue unmarked otherLast).symm.trans last
    cases same
    exact ⟨rfl, rfl⟩
  · cases given : suggestionOfArgs args with
    | ok s => exact absurd (accepted.1 ⟨s, given⟩) malformed
    | error fault =>
        refine ⟨fault, rfl, ?_⟩
        rintro rfl
        exact ne_separatorValue unmarked given
  · rintro before arg after rfl optionLike other own
    exact ⟨_, suggestionOfArgs_of_foreign optionLike other own, nofun, rfl⟩

/-- The option is given twice, in both forms, and the first value is withdrawn; and it is given without
a value, in front of two foreign arguments. -/
theorem accepted_exactly_twice :
    let twice := ["--zone_ids", "EMPTY", "--zone_ids=Asia/Gaza,,Asia/Hebron"]
    let foreign := ["--zone_ids", "--zones", "-v"]
    "--zone_ids=--" ∉ twice ∧ "--zone_ids=--" ∉ foreign ∧ WellFormed twice ∧
      (∃ s, suggestionOfArgs twice = .ok s ∧
        s.zoneIds = some [some "Asia/Gaza", some "Asia/Hebron"]) ∧
      ∃ fault, suggestionOfArgs foreign = .error fault ∧
        fault.message = "Unknown option: --zones" := by
  intro twice foreign
  have unmarked : "--zone_ids=--" ∉ twice := by decide
  have unmarked' : "--zone_ids=--" ∉ foreign := by decide
  obtain ⟨accepted, counts, _, _⟩ := accepted_exactly twice unmarked
  obtain ⟨_, _, _, named⟩ := accepted_exactly foreign unmarked'
  have given : ∃ s, suggestionOfArgs twice = .ok s := ⟨_, rfl⟩
  have last : IsLastValue twice "Asia/Gaza,,Asia/Hebron" :=
    ⟨["--zone_ids", "EMPTY"], [], .inr rfl, List.forall_mem_nil _⟩
  have other : ¬ IsOption "--zones" := (isForeign_iff.1 (by decide)).2
  obtain ⟨fault, failed, _, told⟩ := named ["--zone_ids"] "--zones" ["-v"] rfl (by decide) other
    fun a member _ => .inl (List.mem_singleton.1 member)
  refine ⟨unmarked, unmarked', accepted.1 given, ?_, fault, failed, told⟩
  obtain ⟨s, accepted⟩ := given
  exact ⟨s, accepted, ((counts s accepted).2 _ last).1.trans (by decide)⟩

end Suggestion

end LinkOwnership
