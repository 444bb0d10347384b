/-
# LinkOwnership.Suggestion.Options -- a suggestion given on the command line

One option, `--zone_ids`, carries the zones, either as the next argument or behind an equals
sign.  Its value is a keyword or names between commas (`zonesOfValue`).  `suggestionOfArgs`
reads the arguments of a call: first every argument that starts with a hyphen must be this
option, then the values are taken from left to right and the last one counts.

Two hyphens behind the equals sign are the mark that ends the options, and no text.  The option
then has a value that no zones can be read from, and like any other value it does not count
when another follows.  Where it does count, there is a cause of its own, `separatorValue`.
-/
import LinkOwnership.Suggestion.Basic

namespace LinkOwnership

set_option autoImplicit false

inductive OptionFault where
  /-- An argument is not part of the grammar. -/
  | unknown (arg : String)
  /-- The option is not followed by a value. -/
  | noValue
  /-- The option is not there. -/
  | notGiven
  /-- The value that counts is the mark that ends the options. -/
  | separatorValue
  deriving DecidableEq, Repr

namespace OptionFault

def message : OptionFault → String
  | .unknown arg => "Unknown option: " ++ arg
  | .noValue => "argument --zone_ids: expected one argument"
  | .notGiven => "the following arguments are required: --zone_ids"
  | .separatorValue => "'list' object has no attribute 'split'"

end OptionFault

namespace Suggestion

/-- The keyword that withdraws a suggestion. -/
def uncertainKeyword : String := "UNCERTAIN"

/-- The keyword for a location without a time zone. -/
def emptyKeyword : String := "EMPTY"

/-- The note on a suggestion that was given on the command line. -/
def commandLineNote : String := "Command line injection"

def zoneOption : List Char := "--zone_ids".toList

/-- The parts of a text between commas; there is always one more than there are commas. -/
def splitCommas : List Char → List (List Char)
  | [] => [[]]
  | ',' :: rest => [] :: splitCommas rest
  | c :: rest =>
      match splitCommas rest with
      | [] => [[c]]
      | first :: more => (c :: first) :: more

/-- The parts of a text between commas, empty ones left out. -/
def tokens (value : List Char) : List (List Char) :=
  (splitCommas value).filter fun token => !token.isEmpty

/-- The zones that a value of the option stands for. -/
def zonesOfValue (value : String) : Option (List String) :=
  if value = uncertainKeyword then none
  else if value = emptyKeyword then some []
  else some ((tokens value.toList).map String.ofList)

def isOptionLike (arg : String) : Bool := arg.toList.head? = some '-'

def optionName (arg : String) : List Char := arg.toList.takeWhile (· ≠ '=')

inductive OptionValue where
  | text (s : String)
  /-- The mark that ends the options. -/
  | separator
  deriving DecidableEq, Repr

/-- The value behind the equals sign of the option, if the argument has both. -/
def valueBehindEquals? (arg : String) : Option OptionValue :=
  if (zoneOption ++ ['=']).isPrefixOf arg.toList then
    let value := arg.toList.drop (zoneOption.length + 1)
    some (if value = ['-', '-'] then .separator else .text (String.ofList value))
  else none

/-- An argument that starts like an option and is not this one. -/
def isForeign (arg : String) : Bool := isOptionLike arg && optionName arg ≠ zoneOption

/-- What was found so far: the last value of the option and the first argument that belongs to
no option. -/
structure Found where
  value : Option OptionValue
  stray : Option String
  deriving DecidableEq, Repr

/-- Go through arguments none of which is foreign.  Options are told from words, values are taken and
the mark that ends the options is stripped from them in one pass.  The mark is stripped as it was in
the first patch releases of 3.11; 3.11.10 takes two hyphens behind the equals sign for a text. -/
def scan (found : Found) : List String → Except OptionFault Found
  | [] => .ok found
  | arg :: rest =>
      if isOptionLike arg then
        match valueBehindEquals? arg with
        | some value => scan { found with value := some value } rest
        | none =>
            match rest with
            | [] => .error .noValue
            | value :: rest =>
                if isOptionLike value then .error .noValue
                else scan { found with value := some (.text value) } rest
      else scan { found with stray := found.stray <|> some arg } rest

def valueOfArgs (args : List String) : Except OptionFault String :=
  match args.find? isForeign with
  | some arg => .error (.unknown arg)
  | none => do
      let found ← scan ⟨none, none⟩ args
      match found.value, found.stray with
      | none, _ => .error .notGiven
      | some _, some arg => .error (.unknown arg)
      | some .separator, none => .error .separatorValue
      | some (.text value), none => .ok value

def suggestionOfArgs (args : List String) : Except OptionFault Suggestion :=
  (valueOfArgs args).map fun value =>
    (ofZones ((zonesOfValue value).map (·.map some))).addDebugInfo [some commandLineNote]

def help : String :=
  "Geolocation suggestion options:\n  --zone_ids \x7bUNCERTAIN|EMPTY|<Olson ID>+\x7d\n\n"
    ++ "See src.domain.geolocation.GeolocationSuggestion for more information\n"

end Suggestion

end LinkOwnership
