/-
# LinkOwnership.Suggestion.Basic -- time zones suggested by a location

A `Suggestion` holds the time zones that a location lies in.  A list with entries is the
suggestion, its first entry the default; an empty list says that the location has no time
zone; no list at all withdraws what was suggested before.  The debugging notes say why the
suggestion was made.  They are shown, but two suggestions are the same when their zones are.

`Suggestion.describe` shows all of it in one line.  Every entry stands between quotes, so
that no entry can pass for another or for the end of a list.
-/
import LinkOwnership.Text.Quoted

namespace LinkOwnership

set_option autoImplicit false

/-- Suggested time zones, with notes on why. -/
structure Suggestion where
  zoneIds : Option (List (Option String))
  debugInfo : List (Option String)
  deriving DecidableEq, Repr

namespace Suggestion

def ofZones (zoneIds : Option (List (Option String))) : Suggestion := ⟨zoneIds, []⟩

def isOpinionated (s : Suggestion) : Bool := s.zoneIds.isSome

def addDebugInfo (s : Suggestion) (entries : List (Option String)) : Suggestion :=
  { s with debugInfo := s.debugInfo ++ entries }

def same (a b : Suggestion) : Bool := a.zoneIds = b.zoneIds

def shownEntry : Option String → List Char
  | some s => Text.quote s.toList
  | none => "None".toList

/-- Entries with a comma and a space between them. -/
def shownEntries : List (Option String) → List Char
  | [] => []
  | [entry] => shownEntry entry
  | entry :: rest => shownEntry entry ++ ',' :: ' ' :: shownEntries rest

def shownList (entries : List (Option String)) : List Char :=
  '[' :: shownEntries entries ++ [']']

def shownZones : Option (List (Option String)) → List Char
  | some entries => shownList entries
  | none => "None".toList

def describe (s : Suggestion) : String :=
  String.ofList ("GeolocationSuggestion\x7bzone_ids=".toList ++ shownZones s.zoneIds
    ++ ", debug_info=".toList ++ shownList s.debugInfo ++ ['\x7d'])

end Suggestion

end LinkOwnership
