/-
# LinkOwnership.Web.Problem -- what is wrong with a request

A `Problem` has a kind, a place, the words for it, and the input that it is about: the value
that stands at the place, or for a missing value the one that should hold it.  `Problem.toJson?`
is the form in which problems are sent back to the client.  An input of bytes is sent back as the
text that they are in UTF-8, and has no form when they are none.
-/
import LinkOwnership.Json.Value
import LinkOwnership.Text.Integer
import LinkOwnership.Text.Utf8

namespace LinkOwnership.Web

set_option autoImplicit false

open LinkOwnership.Text (LooseString)

/-! ## Inputs as they are sent back -/

/-- A name that marks a member as private. -/
def isPrivateName (name : LooseString) : Bool := (Json.Value.points "_sa").isPrefixOf name.points

mutual

/-- The value without its private members. -/
def published : Json.Value → Json.Value
  | .arr items => .arr (publishedItems items)
  | .obj members => .obj (publishedMembers members)
  | v => v

def publishedItems : List Json.Value → List Json.Value
  | [] => []
  | v :: rest => published v :: publishedItems rest

def publishedMembers : List (LooseString × Json.Value) → List (LooseString × Json.Value)
  | [] => []
  | (name, v) :: rest =>
      if isPrivateName name then publishedMembers rest
      else (name, published v) :: publishedMembers rest

end

/-! ## Problems -/

inductive Input where
  | value (v : Json.Value)
  | bytes (bs : List UInt8)

def Input.toJson? : Input → Except Text.Utf8.Fault Json.Value
  | .value v => .ok (published v)
  | .bytes bs => (Text.Utf8.decode bs).map fun t => .str (String.ofList t)

structure Problem where
  kind : String
  place : List Json.Value
  words : String
  input : Input

namespace Problem

def toJson? (p : Problem) : Except Text.Utf8.Fault Json.Value :=
  p.input.toJson?.map fun input =>
    .obj [("type", .str p.kind), ("loc", .arr p.place), ("msg", .str p.words), ("input", input)]

def missing (place : List Json.Value) (holder : Json.Value) : Problem :=
  ⟨"missing", place, "Field required", .value holder⟩

/-- The body cannot be read, so it is shown as an empty object. -/
def malformed (position : Nat) : Problem :=
  ⟨"json_invalid", [.str "body", .int position], "JSON decode error", .value (.obj [])⟩

def notAnObject (input : Input) : Problem :=
  ⟨"model_attributes_type", [.str "body"],
    "Input should be a valid dictionary or object to extract fields from", input⟩

def notAList (place : List Json.Value) (input : Json.Value) : Problem :=
  ⟨"list_type", place, "Input should be a valid list", .value input⟩

def emptyList (place : List Json.Value) : Problem :=
  ⟨"too_short", place, "List should have at least 1 item after validation, not 0",
    .value (.arr [])⟩

def notAString (place : List Json.Value) (input : Json.Value) : Problem :=
  ⟨"string_type", place, "Input should be a valid string", .value input⟩

def notUnicode (place : List Json.Value) (input : Json.Value) : Problem :=
  ⟨"string_unicode", place,
    "Input should be a valid string, unable to parse raw data as a unicode string", .value input⟩

def notABool (place : List Json.Value) (input : Json.Value) : Problem :=
  ⟨"bool_type", place, "Input should be a valid boolean", .value input⟩

def unknownBool (place : List Json.Value) (input : Json.Value) : Problem :=
  ⟨"bool_parsing", place, "Input should be a valid boolean, unable to interpret input",
    .value input⟩

def ofInteger (place : List Json.Value) (input : String) : Text.IntegerFault → Problem
  | .notAnInteger =>
      ⟨"int_parsing", place,
        "Input should be a valid integer, unable to parse string as an integer",
        .value (.str input)⟩
  | .tooManyDigits =>
      ⟨"int_parsing_size", place,
        "Unable to parse input string as an integer, exceeded maximum size", .value (.str input)⟩

end Problem

end LinkOwnership.Web
