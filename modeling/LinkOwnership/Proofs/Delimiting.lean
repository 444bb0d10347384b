/-
# LinkOwnership.Proofs.Delimiting -- where a stored value ends

A reader either runs short of bytes, or what it says of them it also says when more bytes follow
(`Wire.Reader.Steady`).  A count is no exception, although it is held against all the bytes that
are left: with too few it runs short, and with enough it does not see the others.  Readers that are
run one after the other are steady when each of them is.

So bytes that are accepted are never part of other bytes that are (`Wire.SelfDelimiting`): what is left
when the end is cut off runs short, and what is added is counted as trailing.
-/
import LinkOwnership.Proofs.Reader
import LinkOwnership.Wire.Record
import LinkOwnership.Wire.Request
import LinkOwnership.Wire.Suggestion

namespace LinkOwnership

set_option autoImplicit false

namespace Wire

/-- Whether there are fewer bytes than announced. -/
def Fault.isShortage : Fault → Bool
  | .truncated .. => true
  | .badCount .. => true
  | _ => false

/-- The cursor when more bytes follow. -/
def Cursor.followed (cursor : Cursor) (back : List UInt8) : Cursor :=
  ⟨cursor.offset, cursor.rest ++ back⟩

def RunsShort {α : Type} (outcome : Except Fault α) : Prop :=
  ∃ fault, outcome = .error fault ∧ fault.isShortage = true

/-- Bytes that are accepted are not accepted when bytes are cut off or added at their end. -/
structure SelfDelimiting {α : Type} (decode : List UInt8 → Except Fault α) : Prop where
  cut : ∀ {front back : List UInt8} {a : α}, decode (front ++ back) = .ok a → back ≠ [] →
    RunsShort (decode front)
  followed : ∀ {bytes more : List UInt8} {a : α}, decode bytes = .ok a → more ≠ [] →
    decode (bytes ++ more) = .error (.trailing more.length)

namespace Reader

variable {α β : Type}

/-- What the reader says of bytes it also says when more bytes follow, unless they run short. -/
def Steady (reader : Reader α) : Prop :=
  ∀ (cursor : Cursor) (back : List UInt8), RunsShort (reader cursor) ∨
    reader (cursor.followed back) =
      (reader cursor).map fun taken => (taken.1, taken.2.followed back)

namespace Steady

theorem pure (a : α) : Steady (Pure.pure a : Reader α) := fun _ _ => Or.inr rfl

theorem throw (fault : Fault) : Steady (MonadExcept.throw fault : Reader α) :=
  fun _ _ => Or.inr rfl

theorem bind {reader : Reader α} {next : α → Reader β} (first : Steady reader)
    (second : ∀ a, Steady (next a)) : Steady (reader >>= next) := by
  intro cursor back
  rw [bind_apply, bind_apply]
  cases read : reader cursor with
  | error fault =>
      -- A fault of the first reader is that of both, and so is a shortage.
      obtain ⟨_, failed, short⟩ | same := first cursor back
      · rw [read] at failed
        cases failed
        exact Or.inl ⟨fault, rfl, short⟩
      · rw [same, read]
        exact Or.inr rfl
  | ok taken =>
      obtain ⟨_, failed, _⟩ | same := first cursor back
      · rw [read] at failed
        cases failed
      · rw [same, read]
        exact second taken.1 taken.2 back

theorem take (n : Nat) : Steady (Reader.take n) := by
  intro cursor back
  by_cases enough : n ≤ cursor.rest.length
  · have more : n ≤ (cursor.rest ++ back).length := by
      rw [List.length_append]
      omega
    right
    rw [Reader.take, Reader.take, Cursor.followed, if_pos enough, if_pos more,
      List.take_append_of_le_length enough, List.drop_append_of_le_length enough]
    rfl
  · left
    rw [Reader.take, if_neg enough]
    exact ⟨_, rfl, rfl⟩

theorem int32 : Steady Reader.int32 := (take 4).bind fun _ => pure _

theorem identifier : Steady Reader.identifier :=
  (take 8).bind fun _ => (take 8).bind fun _ => pure _

theorem text : Steady Reader.text := by
  refine int32.bind fun length => ?_
  split
  · exact pure none
  · split
    · exact throw _
    · refine (take _).bind fun bytes => ?_
      split
      · exact pure _
      · exact throw _

theorem requiredText (field : String) : Steady (Reader.requiredText field) := by
  refine text.bind fun s? => ?_
  cases s? with
  | none => exact throw _
  | some s => exact pure s

/-- A count that stands before enough bytes stands before enough when more follow. -/
theorem count (field : String) : Steady (Reader.count field) := by
  rw [count_eq]
  refine int32.bind fun n cursor back => ?_
  by_cases few : n < 0 ∨ (cursor.rest.length : Int) < n * 4
  · left
    rw [if_pos few]
    exact ⟨_, rfl, rfl⟩
  · have enough : ¬ (n < 0 ∨ ((cursor.followed back).rest.length : Int) < n * 4) := by
      rw [Cursor.followed, List.length_append]
      omega
    right
    rw [if_neg few, if_neg enough]
    rfl

theorem textsOf (field : String) (n : Nat) : Steady (Reader.textsOf field n) := by
  induction n with
  | zero => exact pure []
  | succ n ih => exact (requiredText field).bind fun first => ih.bind fun more => pure _

theorem texts (field : String) : Steady (Reader.texts field) :=
  (count field).bind (textsOf field)

theorem flags (allowed : UInt8) : Steady (Reader.flags allowed) := by
  refine ((take 1).bind fun _ => pure _).bind fun n => ?_
  simp only
  split
  · exact pure _
  · exact throw _

/-! ## The end of the bytes -/

variable {reader : Reader α}

/-- What is accepted is read to its end, and a steady reader gets as far when more bytes follow. -/
theorem selfDelimiting (steady : Steady reader) : SelfDelimiting reader.run where
  cut := by
    intro front back a accepted given
    obtain ⟨offset, read⟩ := run_eq_ok_iff.1 accepted
    obtain ⟨fault, failed, short⟩ | same := steady ⟨0, front⟩ back
    · exact ⟨fault, run_of_error failed, short⟩
    · -- Had the front been enough, the back would be left over.
      rw [Cursor.followed, read] at same
      cases before : reader ⟨0, front⟩ with
      | error fault =>
          rw [before] at same
          cases same
      | ok taken =>
          rw [before] at same
          have ends : ⟨offset, []⟩ = taken.2.followed back := congrArg Prod.snd (Except.ok.inj same)
          have nothing : [] = taken.2.rest ++ back := congrArg Cursor.rest ends
          exact absurd (List.append_eq_nil_iff.1 nothing.symm).2 given
  followed := by
    intro bytes more a accepted given
    obtain ⟨offset, read⟩ := run_eq_ok_iff.1 accepted
    obtain ⟨fault, failed, _⟩ | same := steady ⟨0, bytes⟩ more
    · rw [read] at failed
      cases failed
    · show (reader (Cursor.followed ⟨0, bytes⟩ more) >>= _) = _
      rw [same, read]
      cases more with
      | nil => exact absurd rfl given
      | cons byte more => rfl

end Steady

end Reader

end Wire

/-! ## The stored values -/

open Wire.Reader (Steady)

namespace Record

theorem steady_decodeHosts (n : Nat) (hosts : HostMap) : Steady (decodeHosts n hosts) := by
  induction n generalizing hosts with
  | zero => exact .pure hosts
  | succ n ih =>
      refine (Steady.requiredText "host").bind fun spelling => ?_
      simp only
      split
      · exact .throw _
      · refine Steady.int32.bind fun code => ?_
        split
        · exact ih _
        · exact .throw _

theorem steady_reader : Steady reader :=
  (Steady.flags _).bind fun _ => Steady.identifier.bind fun _ =>
    (Steady.requiredText _).bind fun _ => Steady.int32.bind fun _ =>
    (Steady.count _).bind fun n => (steady_decodeHosts n _).bind fun _ => .pure _

end Record

namespace VerificationRequest

theorem steady_reader : Steady reader :=
  (Steady.flags _).bind fun _ => (Steady.texts _).bind fun _ => .pure _

end VerificationRequest

namespace Suggestion

theorem steady_reader : Steady reader := by
  refine (Steady.flags _).bind fun flags => ?_
  split
  · exact (Steady.texts _).bind fun _ => .pure _
  · exact (Steady.texts _).bind fun _ => (Steady.texts _).bind fun _ => .pure _

end Suggestion

namespace Wire

/-- A stored record, request or suggestion ends by itself: it runs short of bytes wherever its end is
cut off, and bytes behind it are counted as trailing, so neither is read as another value. -/
theorem self_delimiting :
    SelfDelimiting Record.decode ∧ SelfDelimiting VerificationRequest.decode ∧
      SelfDelimiting Suggestion.decode :=
  ⟨Record.steady_reader.selfDelimiting, VerificationRequest.steady_reader.selfDelimiting,
    Suggestion.steady_reader.selfDelimiting⟩

/-- A record with one host, without the code of the host. -/
def recordFront : List UInt8 :=
  [0x08, 0, 0, 0, 0, 0, 0, 0, 0, 1, 0, 0, 0, 0, 0, 0, 0, 1, 0, 0, 0, 0x70, 0, 0, 0, 0,
    1, 0, 0, 0, 1, 0, 0, 0, 0x61]

/-- A request for one package, without the last byte of the name. -/
def requestFront : List UInt8 := [0x00, 1, 0, 0, 0, 2, 0, 0, 0, 0x70]

/-- A suggestion with an empty list of zones, without the notes. -/
def suggestionFront : List UInt8 := [0x01, 0, 0, 0, 0]

theorem self_delimiting_fronts :
    ((∃ r, Record.decode (recordFront ++ [1, 0, 0, 0]) = .ok r) ∧
      RunsShort (Record.decode recordFront)) ∧
    ((∃ r, VerificationRequest.decode (requestFront ++ [0x71]) = .ok r) ∧
      RunsShort (VerificationRequest.decode requestFront) ∧
      VerificationRequest.decode (requestFront ++ [0x71] ++ [0x72]) = .error (.trailing 1)) ∧
    (∃ s, Suggestion.decode (suggestionFront ++ [0, 0, 0, 0]) = .ok s) ∧
      RunsShort (Suggestion.decode suggestionFront) := by
  obtain ⟨records, requests, suggestions⟩ := self_delimiting
  obtain ⟨r, record⟩ : ∃ r, (Record.decode (recordFront ++ [1, 0, 0, 0])).toOption = some r :=
    Option.isSome_iff_exists.1 (by decide +kernel)
  obtain ⟨q, request⟩ : ∃ q, (VerificationRequest.decode (requestFront ++ [0x71])).toOption = some q :=
    Option.isSome_iff_exists.1 (by decide +kernel)
  obtain ⟨s, suggestion⟩ : ∃ s, (Suggestion.decode (suggestionFront ++ [0, 0, 0, 0])).toOption = some s :=
    Option.isSome_iff_exists.1 (by decide +kernel)
  rw [toOption_eq_some_iff] at record request suggestion
  exact ⟨⟨⟨r, record⟩, records.cut record nofun⟩,
    ⟨⟨q, request⟩, requests.cut request nofun, requests.followed request nofun⟩,
    ⟨s, suggestion⟩, suggestions.cut suggestion nofun⟩

end Wire

end LinkOwnership
