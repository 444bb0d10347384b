/-
# LinkOwnership.Proofs.Echo -- what is wrong with a request can be told

An answer to a problem repeats the input that it is about, three levels deep in the answer.  When
the input can be written so deep (`Json.Value.Writable`), so can the answer, and it is not an
internal error (`Web.Response.fine_problems`).

A value can be written when everything in it can (`Json.Value.writable_arr_iff`,
`writable_obj_iff`), so a part of it and what is published of it can be written as well.  Each check
of a request names only problems with the parts that it was given (`Web.Checked.Gives`).  So the
framework that can be run keeps what frameworks promise (`Web.routing_lawful`).
-/
import LinkOwnership.Proofs.Numerals
import LinkOwnership.Proofs.Wire
import LinkOwnership.Web.Routing

namespace LinkOwnership

set_option autoImplicit false

open LinkOwnership.Text (LooseString Point Whole)

/-! ## Values that can be written -/

namespace Json.Value

/-- An induction over values meets the items of an array and the members of an object first. -/
@[elab_as_elim]
theorem induction {motive : Value → Prop} (null : motive .null) (bool : ∀ b, motive (.bool b))
    (int : ∀ n, motive (.int n)) (float : ∀ x, motive (.float x)) (str : ∀ s, motive (.str s))
    (arr : ∀ items, (∀ v ∈ items, motive v) → motive (.arr items))
    (obj : ∀ members, (∀ member ∈ members, motive member.2) → motive (.obj members)) (v : Value) :
    motive v :=
  @Value.rec motive (fun items => ∀ v ∈ items, motive v)
    (fun members => ∀ member ∈ members, motive member.2) (fun member => motive member.2)
    null bool int float str arr obj
    (List.forall_mem_nil _) (fun _ _ first rest => List.forall_mem_cons.2 ⟨first, rest⟩)
    (List.forall_mem_nil _) (fun _ _ first rest => List.forall_mem_cons.2 ⟨first, rest⟩)
    (fun _ _ value => value) v

theorem writable_iff {depth : Nat} {v : Value} :
    v.Writable depth ↔ v.obstacle? depth = none ∧ Whole v.body := by
  rw [Writable, Text.loneHalves?_eq_none_iff]

theorem whole_plainText {s : LooseString} : Whole (plainText s) ↔ Whole s.points := by
  have each (x : Point) : Whole (plainPoint x) ↔ x.isHalf = false := by
    cases x with
    | half n => simp only [plainPoint, Text.whole_cons, Text.whole_nil, and_true]
    | char c =>
        simp only [Point.isHalf, iff_true]
        rw [plainPoint]
        split
        · exact Text.whole_map_char ['\\', c]
        · split
          · exact Text.whole_map_char [c]
          · split
            · rename_i name _
              exact Text.whole_map_char ['\\', name]
            · exact Text.whole_map_char _
  rw [plainText, List.cons_append, Text.whole_cons, Text.whole_append, Text.whole_flatMap]
  simp only [each, Point.isHalf, Text.whole_cons, Text.whole_nil, and_true, true_and]
  rfl

theorem whole_writeItems {items : List Value} :
    Whole (writeItems plainText items) ↔ ∀ v ∈ items, Whole v.body := by
  induction items with
  | nil => exact ⟨fun _ => List.forall_mem_nil _, fun _ => Text.whole_nil⟩
  | cons v rest ih =>
      rw [writeItems, Text.whole_append, List.forall_mem_cons, ← ih]
      cases rest with
      | nil => rfl
      | cons w more =>
          rw [List.isEmpty_cons, if_neg Bool.false_ne_true, Text.whole_cons]
          simp only [Point.isHalf, true_and]
          rfl

theorem whole_writeMembers {members : List (LooseString × Value)} :
    Whole (writeMembers plainText members) ↔
      ∀ member ∈ members, Whole member.1.points ∧ Whole member.2.body := by
  induction members with
  | nil => exact ⟨fun _ => List.forall_mem_nil _, fun _ => Text.whole_nil⟩
  | cons member rest ih =>
      obtain ⟨name, v⟩ := member
      rw [writeMembers, Text.whole_append, Text.whole_append, Text.whole_cons, whole_plainText,
        List.forall_mem_cons, ← ih]
      simp only [Point.isHalf, true_and]
      refine and_congr Iff.rfl ?_
      cases rest with
      | nil => simp only [List.isEmpty_nil, if_true, writeMembers]
      | cons other more =>
          rw [List.isEmpty_cons, if_neg Bool.false_ne_true, Text.whole_cons]
          simp only [Point.isHalf, true_and]

theorem obstacleAmong?_eq_none_iff {depth : Nat} {items : List Value} :
    obstacleAmong? depth items = none ↔ ∀ v ∈ items, v.obstacle? depth = none := by
  induction items with
  | nil => exact ⟨fun _ => List.forall_mem_nil _, fun _ => rfl⟩
  | cons v rest ih =>
      rw [obstacleAmong?, List.forall_mem_cons, ← ih]
      cases v.obstacle? depth with
      | none => simp only [true_and]
      | some why => simp only [reduceCtorEq, false_and]

theorem obstacleWithin?_eq_none_iff {depth : Nat} {members : List (LooseString × Value)} :
    obstacleWithin? depth members = none ↔
      ∀ member ∈ members, member.2.obstacle? depth = none := by
  induction members with
  | nil => exact ⟨fun _ => List.forall_mem_nil _, fun _ => rfl⟩
  | cons member rest ih =>
      obtain ⟨name, v⟩ := member
      rw [obstacleWithin?, List.forall_mem_cons, ← ih]
      cases v.obstacle? depth with
      | none => simp only [true_and]
      | some why => simp only [reduceCtorEq, false_and]

section

variable {depth : Nat}

theorem writable_str_iff {s : LooseString} : (str s).Writable depth ↔ Whole s.points := by
  have body : (str s).body = plainText s := rfl
  simp only [writable_iff, obstacle?, true_and, body, whole_plainText]

theorem writable_str (s : String) : (str s).Writable depth :=
  writable_str_iff.2 (Text.whole_ofString s)

theorem writable_null : null.Writable depth :=
  writable_iff.2 ⟨rfl, Text.whole_map_char _⟩

theorem writable_bool (b : Bool) : (bool b).Writable depth :=
  writable_iff.2 ⟨rfl, Text.whole_map_char _⟩

theorem writable_int (n : Int) : (int n).Writable depth :=
  writable_iff.2 ⟨rfl, Text.whole_map_char _⟩

theorem writable_float_iff {x : Float} : (float x).Writable depth ↔ x.isFinite = true := by
  rw [writable_iff]
  have whole : Whole (float x).body := Text.whole_map_char _
  simp only [obstacle?, whole, and_true]
  split <;> simp [*]

theorem writable_arr_iff {items : List Value} :
    (arr items).Writable (depth + 1) ↔ ∀ v ∈ items, v.Writable depth := by
  have body : Whole (arr items).body ↔ Whole (writeItems plainText items) := by
    show Whole (.char '[' :: writeItems plainText items ++ [.char ']']) ↔ _
    simp [Text.whole_cons, Text.whole_append, Text.whole_nil, Point.isHalf]
  rw [writable_iff, body, whole_writeItems, obstacle?, if_neg (Nat.succ_ne_zero depth),
    Nat.add_sub_cancel, obstacleAmong?_eq_none_iff]
  simp only [writable_iff, ← forall_and]

theorem writable_obj_iff {members : List (LooseString × Value)} :
    (obj members).Writable (depth + 1) ↔
      ∀ member ∈ members, Whole member.1.points ∧ member.2.Writable depth := by
  have body : Whole (obj members).body ↔ Whole (writeMembers plainText members) := by
    show Whole (.char '\x7b' :: writeMembers plainText members ++ [.char '\x7d']) ↔ _
    simp [Text.whole_cons, Text.whole_append, Text.whole_nil, Point.isHalf]
  rw [writable_iff, body, whole_writeMembers, obstacle?, if_neg (Nat.succ_ne_zero depth),
    Nat.add_sub_cancel, obstacleWithin?_eq_none_iff]
  simp only [writable_iff, ← forall_and, and_left_comm]

theorem not_writable_arr {items : List Value} : ¬ (arr items).Writable 0 := fun writable =>
  nomatch writable.1

theorem not_writable_obj {members : List (LooseString × Value)} : ¬ (obj members).Writable 0 :=
  fun writable => nomatch writable.1

/-- A value that can be written can be written with one level more. -/
theorem Writable.succ {v : Value} (writable : v.Writable depth) : v.Writable (depth + 1) := by
  induction v using Value.induction generalizing depth with
  | null => exact writable_null
  | bool b => exact writable_bool b
  | int n => exact writable_int n
  | float x => exact writable_float_iff.2 (writable_float_iff.1 writable)
  | str s => exact writable_str_iff.2 (writable_str_iff.1 writable)
  | arr items ih =>
      cases depth with
      | zero => exact absurd writable not_writable_arr
      | succ depth =>
          have each := writable_arr_iff.1 writable
          exact writable_arr_iff.2 fun v member => ih v member (each v member)
  | obj members ih =>
      cases depth with
      | zero => exact absurd writable not_writable_obj
      | succ depth =>
          have each := writable_obj_iff.1 writable
          exact writable_obj_iff.2 fun m member => ⟨(each m member).1, ih m member (each m member).2⟩

/-- The items of an array that can be written can be written where it is. -/
theorem Writable.item {items : List Value} (writable : (arr items).Writable depth) {v : Value}
    (member : v ∈ items) : v.Writable depth := by
  cases depth with
  | zero => exact absurd writable not_writable_arr
  | succ depth => exact (writable_arr_iff.1 writable v member).succ

/-- The members of an object that can be written can be written where it is. -/
theorem Writable.member? {holder v : Value} {name : String} (writable : holder.Writable depth)
    (found : holder.member? name = some v) : v.Writable depth := by
  unfold Value.member? at found
  split at found
  · rename_i members
    obtain ⟨before, after, rfl, _⟩ := List.lookup_eq_some_iff.1 found
    cases depth with
    | zero => exact absurd writable not_writable_obj
    | succ depth =>
        exact (writable_obj_iff.1 writable _ List.mem_append_cons_self).2.succ
  · cases found

end

end Json.Value

/-! ## Problems -/

namespace Web

open Json (Value)
open Json.Value

variable {depth : Nat}

theorem publishedItems_eq (items : List Value) : publishedItems items = items.map published := by
  induction items with
  | nil => rfl
  | cons v rest ih => rw [publishedItems, ih, List.map_cons]

theorem mem_publishedMembers {members : List (LooseString × Value)} {name : LooseString}
    {v : Value} (member : (name, v) ∈ publishedMembers members) :
    ∃ w, (name, w) ∈ members ∧ v = published w := by
  induction members with
  | nil => cases member
  | cons first rest ih =>
      obtain ⟨other, w⟩ := first
      rw [publishedMembers] at member
      split at member
      · obtain ⟨w, behind, same⟩ := ih member
        exact ⟨w, List.mem_cons_of_mem _ behind, same⟩
      · obtain here | behind := List.mem_cons.1 member
        · cases here
          exact ⟨w, List.mem_cons_self .., rfl⟩
        · obtain ⟨w, behind, same⟩ := ih behind
          exact ⟨w, List.mem_cons_of_mem _ behind, same⟩

/-- What is published of a value can be written where the value can. -/
theorem writable_published {v : Value} (writable : v.Writable depth) :
    (published v).Writable depth := by
  induction v using Value.induction generalizing depth with
  | null => exact writable
  | bool b => exact writable
  | int n => exact writable
  | float x => exact writable
  | str s => exact writable
  | arr items ih =>
      cases depth with
      | zero => exact absurd writable not_writable_arr
      | succ depth =>
          have each := writable_arr_iff.1 writable
          rw [published, publishedItems_eq, writable_arr_iff]
          exact List.forall_mem_map.2 fun v member => ih v member (each v member)
  | obj members ih =>
      cases depth with
      | zero => exact absurd writable not_writable_obj
      | succ depth =>
          have each := writable_obj_iff.1 writable
          rw [published, writable_obj_iff]
          rintro ⟨name, _⟩ member
          obtain ⟨w, listed, rfl⟩ := mem_publishedMembers member
          obtain ⟨whole, inner⟩ := each (name, w) listed
          exact ⟨whole, ih (name, w) listed inner⟩

/-- A place whose steps can be written at any depth. -/
def Placed (place : List Value) : Prop := ∀ step ∈ place, ∀ depth, step.Writable depth

theorem placed_body : Placed [str "body"] :=
  List.forall_mem_singleton.2 fun _ => writable_str "body"

theorem placed (part name : String) : Placed [str part, str name] :=
  List.forall_mem_cons.2 ⟨fun _ => writable_str part,
    List.forall_mem_singleton.2 fun _ => writable_str name⟩

theorem Placed.item {place : List Value} (placed : Placed place) (index : Nat) :
    Placed (place ++ [int index]) :=
  List.forall_mem_append.2 ⟨placed, List.forall_mem_singleton.2 fun _ => writable_int index⟩

/-- An input that an answer can repeat. -/
def Input.Told : Input → Prop
  | .value v => v.Writable routing.depth
  | .bytes bs => (Text.Utf8.decode bs).isOk = true

theorem Input.Told.exists_json {input : Input} (told : input.Told) :
    ∃ v, input.toJson? = .ok v ∧ v.Writable routing.depth := by
  cases input with
  | value v => exact ⟨_, rfl, writable_published told⟩
  | bytes bs =>
      have told : (Text.Utf8.decode bs).isOk = true := told
      rw [Input.toJson?]
      cases decoded : Text.Utf8.decode bs with
      | ok t => exact ⟨.str (String.ofList t), rfl, writable_str _⟩
      | error fault =>
          rw [decoded] at told
          cases told

/-- A problem that an answer can name: its place and its input can be written. -/
structure Problem.Told (p : Problem) : Prop where
  place : Placed p.place
  input : p.input.Told

theorem Problem.told_malformed (position : Nat) : (Problem.malformed position).Told where
  place := placed_body.item position
  input := writable_obj_iff.2 (List.forall_mem_nil _)

theorem Problem.Told.exists_json {p : Problem} (told : p.Told) :
    ∃ v, p.toJson? = .ok v ∧ v.Writable (routing.depth + 1) := by
  obtain ⟨input, shown, writable⟩ := told.input.exists_json
  have place : (arr p.place).Writable routing.depth :=
    writable_arr_iff.2 fun step member => told.place step member _
  refine ⟨_, by rw [Problem.toJson?, shown]; rfl, writable_obj_iff.2 ?_⟩
  simp only [List.forall_mem_cons, Text.whole_ofString, true_and]
  exact ⟨writable_str p.kind, place, writable_str p.words, writable, List.forall_mem_nil _⟩

theorem Response.fine_json {status : Nat} (known : status ≠ 500) (v : Value) :
    (Response.json status v).Fine := ⟨known, rfl⟩

theorem Response.fine_empty {status : Nat} (known : status ≠ 500) : (Response.empty status).Fine :=
  ⟨known, rfl⟩

theorem Response.fine_redirect (path : String) : (Response.redirect path).Fine :=
  ⟨(by decide : 307 ≠ 500), rfl⟩

/-- Problems that can be named are answered. -/
theorem Response.fine_problems {ps : List Problem} (told : ∀ p ∈ ps, p.Told) :
    (Response.problems ps).Fine := by
  obtain ⟨shown, (listed : _ = Except.ok shown), sources⟩ := exists_mapM_eq_pure fun p member =>
    (told p member).exists_json.imp fun _ both => both.1
  have each : (arr shown).Writable (routing.depth + 2) := by
    refine writable_arr_iff.2 fun v member => ?_
    obtain ⟨p, among, given⟩ := sources v member
    obtain ⟨w, given', writable⟩ := (told p among).exists_json
    cases given.symm.trans given'
    exact writable
  have all : (obj [("detail", arr shown)]).Writable Response.depthLimit :=
    writable_obj_iff.2 (List.forall_mem_singleton.2 ⟨Text.whole_ofString _, each⟩)
  rw [Response.problems, listed]
  simp only [Response.send, all.1, all.2]
  exact Response.fine_json (by decide) _

/-! ## Checks -/

/-- A check gives something good, or names problems that an answer can name. -/
def Checked.Gives {α : Type} (p : α → Prop) : Checked α → Prop
  | .ok a => p a
  | .error ps => ∀ problem ∈ ps, problem.Told

/-- A check that names only problems that an answer can name. -/
def Checked.Told {α : Type} (checked : Checked α) : Prop := checked.Gives fun _ => True

namespace Checked

variable {α β : Type} {p : α → Prop} {q : β → Prop}

theorem gives_error {problem : Problem} (told : problem.Told) : Gives p (.error [problem]) :=
  List.forall_mem_singleton.2 told

theorem Gives.both {a? : Checked α} {b? : Checked β} (first : a?.Gives p)
    (second : b?.Gives q) : (Web.both a? b?).Gives fun both => p both.1 ∧ q both.2 := by
  cases a? with
  | ok a =>
      cases b? with
      | ok b => exact ⟨first, second⟩
      | error qs => exact second
  | error ps =>
      cases b? with
      | ok b => exact first
      | error qs => exact List.forall_mem_append.2 ⟨first, second⟩

theorem Gives.bind {a? : Checked α} {next : α → Checked β} (first : a?.Gives p)
    (second : ∀ a, p a → (next a).Gives q) : Gives q (a? >>= next) := by
  cases a? with
  | ok a => exact second a first
  | error ps => exact first

theorem Gives.map {a? : Checked α} {f : α → β} (first : a?.Gives p)
    (kept : ∀ a, p a → q (f a)) : Gives q (a?.map f) := by
  cases a? with
  | ok a => exact kept a first
  | error ps => exact first

end Checked

open Checked (gives_error)

/-- A user that is read can be written. -/
theorem checkUser_gives (user : String) : (checkUser user).Gives (Text.Integer.fits · = true) := by
  unfold checkUser
  cases read : Text.Integer.parse user.toList with
  | ok u => exact Text.Integer.fits_of_parse read
  | error why =>
      refine gives_error ?_
      cases why with
      | notAnInteger => exact ⟨placed "path" "user", writable_str user⟩
      | tooManyDigits => exact ⟨placed "path" "user", writable_str user⟩

theorem checkStringsFrom_told {place : List Value} (placed : Placed place) {items : List Value}
    (writable : ∀ v ∈ items, v.Writable routing.depth) (index : Nat) :
    (checkStringsFrom place index items).Told := by
  induction items generalizing index with
  | nil => trivial
  | cons v rest ih =>
      have behind := fun w member => writable w (List.mem_cons_of_mem v member)
      refine Checked.Gives.map (Checked.Gives.both (p := fun _ => True) ?_ (ih behind (index + 1)))
        fun _ _ => trivial
      split
      · trivial
      · exact gives_error ⟨placed.item index, writable _ (List.mem_cons_self ..)⟩

theorem checkStrings_told {place : List Value} (placed : Placed place) {v : Value}
    (writable : v.Writable routing.depth) : (checkStrings place v).Told := by
  unfold checkStrings
  split
  · exact checkStringsFrom_told placed (fun _ => writable.item) 0
  · exact gives_error ⟨placed, writable⟩

theorem known_told {place : List Value} (placed : Placed place) {v : Value}
    (writable : v.Writable routing.depth) (b? : Option Bool) :
    Checked.Told (match b? with
      | some b => .ok b
      | none => .error [Problem.unknownBool place v]) := by
  cases b? with
  | some b => trivial
  | none => exact gives_error ⟨placed, writable⟩

theorem checkBool_told {place : List Value} (placed : Placed place) {v : Value}
    (writable : v.Writable routing.depth) : (checkBool place v).Told := by
  unfold checkBool
  split
  · trivial
  · split
    · exact known_told placed writable _
    · exact gives_error ⟨placed, writable⟩
  · split
    · exact known_told placed writable _
    · exact gives_error ⟨placed, writable⟩

section Bodies

variable {body : Body} (told : body.Told routing.depth)

include told

theorem checkObject_gives : (checkObject body).Gives (Value.Writable routing.depth) := by
  unfold checkObject
  split
  · exact gives_error ⟨placed_body, writable_null⟩
  · exact told
  · exact gives_error ⟨placed_body, told⟩
  · exact gives_error ⟨placed_body, told⟩

theorem checkHosts_told : (checkHosts body).Told := by
  refine (checkObject_gives told).bind fun object writable => ?_
  split
  · trivial
  · rename_i v found
    exact checkStrings_told (placed "body" "hosts") (writable.member? found)

theorem checkPackageNames_told : (checkPackageNames body).Told := by
  refine (checkObject_gives told).bind fun object writable => ?_
  have place := placed "body" "package_names"
  split
  · exact gives_error ⟨place, writable⟩
  · rename_i v found
    refine Checked.Gives.bind (checkStrings_told place (writable.member? found)) fun names _ => ?_
    split
    · exact gives_error ⟨place, writable_arr_iff.2 (List.forall_mem_nil _)⟩
    · trivial

theorem checkAllowed_told : (checkAllowed body).Told := by
  refine (checkObject_gives told).bind fun object writable => ?_
  have place := placed "body" "allowed"
  split
  · exact gives_error ⟨place, writable⟩
  · rename_i v found
    exact checkBool_told place (writable.member? found)

end Bodies

/-! ## Requests -/

/-- What comes of a request has a property, or is an answer that is no internal error if the body of
the request can be told. -/
def Settled {α : Type} (told : Prop) (p : α → Prop) : Except Response α → Prop
  | .ok a => p a
  | .error response => told → response.Fine

namespace Settled

variable {α β : Type} {told : Prop} {p : α → Prop} {q : β → Prop}

theorem bind {a? : Except Response α} {next : α → Except Response β} (first : Settled told p a?)
    (second : ∀ a, p a → Settled told q (next a)) : Settled told q (a? >>= next) := by
  cases a? with
  | ok a => exact second a first
  | error response => exact first

theorem map {a? : Except Response α} {f : α → β} (first : Settled told p a?)
    (kept : ∀ a, p a → q (f a)) : Settled told q (a?.map f) := by
  cases a? with
  | ok a => exact kept a first
  | error response => exact first

theorem of_gives {a? : Checked α} (gives : a?.Gives p) : Settled told p (settled a?) := by
  cases a? with
  | ok a => exact gives
  | error ps => exact fun _ => Response.fine_problems gives

theorem of_told {a? : Checked α} (gives : told → a?.Told) :
    Settled told (fun _ => True) (settled a?) := by
  cases a? with
  | ok a => trivial
  | error ps => exact fun can => Response.fine_problems (gives can)

/-- Of two parts the first alone is known for something. -/
theorem of_both {a? : Checked α} {b? : Checked β} (first : a?.Gives p) (second : told → b?.Told) :
    Settled told (fun both => p both.1) (settled (both a? b?)) := by
  cases checked : both a? b? with
  | error ps =>
      intro can
      have gives := first.both (second can)
      rw [checked] at gives
      exact Response.fine_problems gives
  | ok parts =>
      cases a? with
      | error ps => cases b? <;> cases checked
      | ok a =>
          cases b? with
          | error qs => cases checked
          | ok b =>
              cases checked
              exact first

end Settled

/-- The body of a request can be repeated in an answer, if it can be read at all. -/
def Request.Told (r : Request) : Prop := ∀ body ∈ routing.body? r, body.Told routing.depth

theorem settled_given (r : Request) :
    Settled r.Told (fun body => r.Told → body.Told routing.depth) r.given := by
  unfold Request.given
  cases read : r.readBody with
  | ok body => exact fun told => told body (show body ∈ r.readBody.toOption from read ▸ rfl)
  | error fault =>
      intro _
      cases fault with
      | malformed position =>
          exact Response.fine_problems (List.forall_mem_singleton.2 (Problem.told_malformed position))
      | unreadable => exact Response.fine_json (by decide) _

/-- The method for which the function of an action is called. -/
def Action.method : Action → String
  | .showPackage | .showOwners | .health | .documentation => "GET"
  | .addPackage | .selectHost | .setLinkHandling => "PUT"
  | .removePackage | .unselectHost => "DELETE"
  | .verifyHost | .requestVerification => "POST"

theorem Route.methods_eq : ∀ route ∈ Route.all,
    route.action ≠ .documentation → route.methods = [route.action.method] := by
  decide

/-- A call that an action stands for has the method of the action and a user that can be written. -/
structure Action.Means (action : Action) (c : Invocation) : Prop where
  method : c.method = action.method
  called : action ≠ .documentation
  user : ∀ u ∈ c.user?, Text.Integer.fits u = true

theorem Action.means_of_user {action : Action} {c : Invocation} {u : Int}
    (method : c.method = action.method) (called : action ≠ .documentation) (own : c.user? = some u)
    (fits : Text.Integer.fits u = true) : action.Means c :=
  ⟨method, called, fun _ member => Option.some.inj (own.symm.trans member) ▸ fits⟩

theorem settled_invocation (r : Request) (action : Action) (ps : List String) :
    Settled r.Told action.Means (r.invocation action ps) := by
  have user (s : String) : Settled r.Told (Text.Integer.fits · = true) (settled (checkUser s)) :=
    .of_gives (checkUser_gives s)
  unfold Request.invocation
  split
  · exact (settled_given r).bind fun body told =>
      (Settled.of_both (checkUser_gives _) fun can => checkHosts_told (told can)).bind
        fun _ fits => Action.means_of_user rfl nofun rfl fits
  · exact (settled_given r).bind fun body told =>
      (Settled.of_both (checkUser_gives _) fun can => checkAllowed_told (told can)).bind
        fun _ fits => Action.means_of_user rfl nofun rfl fits
  · exact (settled_given r).bind fun body told =>
      (Settled.of_told fun can => checkPackageNames_told (told can)).bind
        fun _ _ => ⟨rfl, nofun, nofun⟩
  · exact (user _).map fun _ => Action.means_of_user rfl nofun rfl
  · exact (user _).map fun _ => Action.means_of_user rfl nofun rfl
  · exact (user _).map fun _ => Action.means_of_user rfl nofun rfl
  · exact (user _).map fun _ => Action.means_of_user rfl nofun rfl
  · exact (user _).map fun _ => Action.means_of_user rfl nofun rfl
  · exact (user _).map fun _ => Action.means_of_user rfl nofun rfl
  · exact ⟨rfl, nofun, nofun⟩
  · exact fun _ => Response.fine_empty (by decide)
  · exact fun _ => Response.fine_json (by decide) _

/-- A call stands for a route that has the method. -/
theorem exists_route {method path : String} {action : Action} {ps : List String}
    (resolved : resolve method path = .call action ps) :
    ∃ route ∈ Route.all, method ∈ route.methods ∧ route.action = action := by
  unfold resolve at resolved
  simp only at resolved
  split at resolved
  · rename_i call fitting
    subst resolved
    obtain ⟨route, listed, fits⟩ := List.exists_of_findSome?_eq_some fitting
    split at fits
    · rename_i allowed
      obtain ⟨parameters, _, same⟩ := Option.map_eq_some_iff.1 fits
      cases same
      exact ⟨route, listed, allowed, rfl⟩
    · cases fits
  · split at resolved
    · cases resolved
    · split at resolved <;> cases resolved

/-- A request that is received as a call was resolved to an action that means this call. -/
theorem means_of_receive {r : Request} {c : Invocation} (received : r.receive = .call c) :
    ∃ action ps, resolve r.method r.path = .call action ps ∧ action.Means c := by
  unfold Request.receive at received
  split at received
  · cases received
  · cases received
  · cases received
  · rename_i action ps resolved
    have outcome := settled_invocation r action ps
    split at received
    · rename_i made
      cases received
      rw [made] at outcome
      exact ⟨action, ps, resolved, outcome⟩
    · cases received

theorem fine_of_receive {r : Request} {response : Response} (received : r.receive = .answer response)
    (told : r.Told) : response.Fine := by
  unfold Request.receive at received
  split at received
  · cases received
    exact Response.fine_json (by decide) _
  · cases received
    exact Response.fine_json (by decide) _
  · cases received
    exact Response.fine_redirect _
  · rename_i action ps _
    have outcome := settled_invocation r action ps
    split at received
    · cases received
    · rename_i failed
      cases received
      rw [failed] at outcome
      exact outcome told

/-- The framework that can be run keeps what frameworks promise. -/
theorem routing_lawful : routing.Lawful where
  method r c received := by
    obtain ⟨action, ps, resolved, means⟩ := means_of_receive received
    obtain ⟨route, listed, allowed, rfl⟩ := exists_route resolved
    rw [Route.methods_eq route listed means.called, List.mem_singleton] at allowed
    rw [allowed, means.method]
  user r c received := by
    obtain ⟨_, _, _, means⟩ := means_of_receive received
    exact means.user
  answer _ _ := fine_of_receive

end Web

end LinkOwnership
