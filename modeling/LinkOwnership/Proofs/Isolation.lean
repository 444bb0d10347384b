/-
# LinkOwnership.Proofs.Isolation -- users have nothing to do with each other

A call is about one user (`Operation.user`).  It answers by what that user's scope is and leaves
it a scope that depends on nothing else, and it does not change the scope of anybody else
(`Registry.Within`, proved for every operation in `Operation.within`).

So what a user sees of a run is what the user's own calls give when they are made alone, and calls
about different users that follow each other may change places (`Registry.users_isolated`).
-/
import LinkOwnership.Proofs.Frame
import LinkOwnership.Proofs.Located

namespace LinkOwnership

set_option autoImplicit false

open LinkOwnership.Text (LooseString)

/-- The user that a call is about; a restored record brings its own. -/
def Operation.user (op : Operation) : Option Int := op.ref.user

namespace Registry

/-! ## Calls within the scope of one user -/

/-- A call that reads and changes no scope but that of one user. -/
structure Within {α : Type} (user : Option Int) (call : Registry → α × Registry) : Prop where
  alike : ∀ reg reg', reg.scope? user = reg'.scope? user →
    (call reg).1 = (call reg').1 ∧ (call reg).2.scope? user = (call reg').2.scope? user
  others : ∀ reg v, v ≠ user → (call reg).2.scope? v = reg.scope? v

theorem Within.map {α β : Type} {user : Option Int} {call : Registry → α × Registry}
    (within : Within user call) (f : α → β) :
    Within user fun reg => (f (call reg).1, (call reg).2) where
  alike reg reg' same :=
    let ⟨answer, own⟩ := within.alike reg reg' same
    ⟨congrArg f answer, own⟩
  others := within.others

theorem Within.congr {α : Type} {user : Option Int} {call call' : Registry → α × Registry}
    (within : Within user call) (same : ∀ reg, call' reg = call reg) : Within user call' := by
  rwa [show call' = call from funext same]

/-- A call that only reads. -/
theorem within_reading {α : Type} {user : Option Int} {read : Registry → α}
    (alike : ∀ reg reg', reg.scope? user = reg'.scope? user → read reg = read reg') :
    Within user fun reg => (read reg, reg) where
  alike reg reg' same := ⟨alike reg reg' same, same⟩
  others _ _ _ := rfl

/-- A call that reads what is known of a package. -/
theorem within_locate {α : Type} (ref : PackageRef) (f : Site → α) :
    Within ref.user fun reg => ((reg.locate ref).map f, reg) :=
  within_reading fun reg reg' same => by rw [locate_congr same]

/-- A call that makes another scope of the one that the user has. -/
theorem within_putScope {α : Type} (user : Int) (next : Scope → α × Scope) :
    Within (some user) fun reg =>
      ((next (reg.scopeOrEmpty user)).1, reg.putScope user (next (reg.scopeOrEmpty user)).2) where
  alike reg reg' same := by
    have scope : reg.scopeOrEmpty user = reg'.scopeOrEmpty user := by
      rw [scopeOrEmpty_eq_scope?, scopeOrEmpty_eq_scope?, same]
    simp only [scope, scope?_putScope, if_true, and_self]
  others reg v ne := by rw [scope?_putScope, if_neg ne]

theorem within_changeAt {α : Type} (check : Except Rejection α) (ref : PackageRef)
    (next : α → Site → Except Rejection Scope) :
    Within ref.user fun reg => reg.changeAt check ref next where
  alike reg reg' same := by
    -- Both take the same way, since the package is looked up in the same scope.
    have located := locate_congr same
    unfold changeAt
    rw [located]
    cases check with
    | error why => exact ⟨rfl, same⟩
    | ok a =>
        cases found : reg'.locate ref with
        | error why => exact ⟨rfl, same⟩
        | ok site =>
            have names := congrArg PackageRef.user (locate_eq_ok_iff.1 found).1
            cases changed : next a site with
            | error why => simp only [bind, Except.bind, changed, commit, same, and_self]
            | ok s =>
                simp only [bind, Except.bind, changed, pure, Except.pure, commit, scope?_putScope,
                  names, if_true, and_self]
  others reg v ne := by
    rcases reg.changeAt_cases check ref next with
      ⟨why, rejected, _⟩ | ⟨_, site, s, _, found, _, made⟩
    · rw [rejected]
    · have names : ref.user = some site.user :=
        congrArg PackageRef.user (locate_eq_ok_iff.1 found).1
      rw [made, scope?_putScope, if_neg (names ▸ ne)]

/-- A package that is present keeps its record. -/
def orPresent (r : Record) (scope : Scope) : Except Rejection Record × Scope :=
  match scope.packages[r.packageName]? with
  | some present => (.ok present, scope)
  | none => (.ok r, scope.putRecord r.packageName r)

theorem within_addPackage (draft : Draft) :
    Within draft.user fun reg : Registry => reg.addPackage draft := by
  cases built : draft.build with
  | error why =>
      simp only [addPackage, built]
      exact within_reading fun _ _ _ => rfl
  | ok r =>
      rw [show draft.user = some r.user from congrArg PackageRef.user (ref_of_build built)]
      refine (within_putScope r.user (orPresent r)).congr fun reg => ?_
      simp only [addPackage, built, orPresent]
      cases (reg.scopeOrEmpty r.user).packages[r.packageName]? <;> rfl

/-- A record is taken over unless a claim stands in its way. -/
def orConflict (r : Record) (approvals : List LooseString) (scope : Scope) :
    Except Rejection Unit × Scope :=
  match scope.conflict? r approvals with
  | some why => (.error why, scope)
  | none => (.ok (), scope.install r approvals)

theorem within_restore (draft : Draft) (approved : Option (List (Option LooseString))) :
    Within draft.user fun reg : Registry => reg.restore draft approved := by
  cases copied : draft.copy with
  | error why =>
      simp only [restore, copied]
      exact within_reading fun _ _ _ => rfl
  | ok r =>
      cases given : normalizeAll? approved with
      | error why =>
          simp only [restore, copied, given]
          exact within_reading fun _ _ _ => rfl
      | ok hosts =>
          have built := Draft.copy_eq_ok_iff.1 copied
          rw [show draft.user = some r.user from congrArg PackageRef.user (ref_of_build built)]
          refine (within_putScope r.user (orConflict r (approvalsOf r hosts))).congr fun reg => ?_
          simp only [restore, copied, given, orConflict]
          cases (reg.scopeOrEmpty r.user).conflict? r (approvalsOf r hosts) <;> rfl

theorem within_removeUser (user : Option Int) :
    Within user fun reg : Registry => ((), reg.removeUser user) where
  alike reg reg' _ := by simp only [scope?_removeUser, if_true, and_self]
  others reg v ne := by rw [scope?_removeUser, if_neg ne]

end Registry

/-- Every call keeps to the scope of the user that it is about. -/
theorem Operation.within (op : Operation) : Registry.Within op.user op.apply := by
  cases op with
  | addPackage ref identifier hosts allowed =>
      cases hosts with
      | none => exact Registry.within_reading fun _ _ _ => rfl
      | some hosts =>
          exact (Registry.within_addPackage
            (.fresh identifier ref.package ref.user hosts allowed)).map _
  | restore draft approved => exact (Registry.within_restore draft approved).map _
  | setVerified ref host =>
      exact ((Registry.within_changeAt _ ref _).congr
        (Registry.setVerified_eq_changeAt · ref host)).map _
  | setSelected ref host =>
      exact ((Registry.within_changeAt _ ref _).congr
        (Registry.setSelected_eq_changeAt · ref host)).map _
  | clearSelected ref host =>
      exact ((Registry.within_changeAt _ ref _).congr
        (Registry.clearSelected_eq_changeAt · ref host)).map _
  | setLinkHandlingAllowed ref allowed =>
      exact ((Registry.within_changeAt _ ref _).congr
        (Registry.setLinkHandlingAllowed_eq_changeAt · ref allowed)).map _
  | removePackage ref =>
      exact ((Registry.within_changeAt _ ref _).congr
        (Registry.removePackage_eq_changeAt · ref)).map _
  | removeUser user => exact (Registry.within_removeUser user).map fun _ => Except.ok Outcome.done
  | userState ref => exact (Registry.within_locate ref _).map _
  | hostMap ref => exact (Registry.within_locate ref _).map _
  | approvedHosts ref => exact (Registry.within_locate ref _).map _
  | packageNames user =>
      refine Registry.within_reading fun reg reg' (same : reg.scope? user = reg'.scope? user) => ?_
      rw [Registry.packageNames, Registry.packageNames, same]
  | exclusiveOwner user host =>
      refine Registry.within_reading fun reg reg' (same : reg.scope? user = reg'.scope? user) => ?_
      rw [Registry.exclusiveOwner, Registry.exclusiveOwner, same]
  | owners user host =>
      refine Registry.within_reading fun reg reg' (same : reg.scope? user = reg'.scope? user) => ?_
      rw [Registry.owners, Registry.owners, same]

namespace Registry

/-! ## Runs -/

variable {reg reg' : Registry}

/-- The answers to the calls about a user, among the answers to all calls of a run. -/
def answersFor (user : Option Int) (ops : List Operation)
    (answers : List (Except Rejection Outcome)) : List (Except Rejection Outcome) :=
  ((ops.zip answers).filter fun call => call.1.user = user).map Prod.snd

theorem answersFor_cons (user : Option Int) (op : Operation) (rest : List Operation)
    (answer : Except Rejection Outcome) (answers : List (Except Rejection Outcome)) :
    answersFor user (op :: rest) (answer :: answers) =
      if op.user = user then answer :: answersFor user rest answers
      else answersFor user rest answers := by
  by_cases own : op.user = user
  · simp [answersFor, own]
  · simp [answersFor, own]

/-- The calls about a user go the same with and without those about others. -/
theorem run_alike {user : Option Int} (same : reg.scope? user = reg'.scope? user)
    (ops : List Operation) :
    answersFor user ops (reg.run ops).1 = (reg'.run (ops.filter (·.user = user))).1 ∧
      (reg.run ops).2.scope? user = (reg'.run (ops.filter (·.user = user))).2.scope? user := by
  induction ops generalizing reg reg' with
  | nil => exact ⟨rfl, same⟩
  | cons op rest ih =>
      by_cases own : op.user = user
      · obtain ⟨answer, scope⟩ := op.within.alike reg reg' (own ▸ same)
        rw [own] at scope
        obtain ⟨answers, final⟩ := ih scope
        have mine : (op :: rest).filter (·.user = user) = op :: rest.filter (·.user = user) := by
          rw [List.filter_cons, if_pos (decide_eq_true own)]
        rw [mine]
        refine ⟨?_, final⟩
        simp only [run, answersFor_cons, own, if_true, answer, answers]
      · have kept := op.within.others reg user (Ne.symm own)
        obtain ⟨answers, final⟩ := ih (kept.trans same)
        have others : (op :: rest).filter (·.user = user) = rest.filter (·.user = user) := by
          rw [List.filter_cons, if_neg (fun mine => own (of_decide_eq_true mine))]
        rw [others]
        refine ⟨?_, final⟩
        simp only [run, answersFor_cons, own, if_false, answers]

/-- Calls about different users change the registry the same way in both orders. -/
theorem apply_comm {first second : Operation} (apart : first.user ≠ second.user) (reg : Registry) :
    (second.apply (first.apply reg).2).2 = (first.apply (second.apply reg).2).2 := by
  have secondKept := first.within.others reg second.user apart.symm
  have firstKept := second.within.others reg first.user apart
  refine eq_of_scope? fun user => ?_
  by_cases ofFirst : some user = first.user
  · have other : some user ≠ second.user := ofFirst ▸ apart
    rw [second.within.others _ _ other, ofFirst]
    exact (first.within.alike _ _ firstKept).2.symm
  · rw [first.within.others _ _ ofFirst]
    by_cases ofSecond : some user = second.user
    · rw [ofSecond]
      exact (second.within.alike _ _ secondKept).2
    · rw [second.within.others _ _ ofSecond, second.within.others _ _ ofSecond,
        first.within.others _ _ ofFirst]

/-- What a user gets of a run, the answers and the scope at its end, is what the calls about this
user give without those about others.  So two calls about different users that follow each other may
change places: each keeps its answer, and so do the calls before and after them, and the registry
at the end is the same. -/
theorem users_isolated (reg : Registry) :
    (∀ (ops : List Operation) (user : Option Int),
      answersFor user ops (reg.run ops).1 = (reg.run (ops.filter (·.user = user))).1 ∧
        (reg.run ops).2.scope? user = (reg.run (ops.filter (·.user = user))).2.scope? user) ∧
    ∀ (earlier : List Operation) (first second : Operation) (later : List Operation),
      first.user ≠ second.user →
        ∃ before a b after last, before.length = earlier.length ∧
          reg.run (earlier ++ first :: second :: later) = (before ++ a :: b :: after, last) ∧
          reg.run (earlier ++ second :: first :: later) = (before ++ b :: a :: after, last) := by
  refine ⟨fun ops user => run_alike rfl ops, fun earlier first second later apart => ?_⟩
  let mid := (reg.run earlier).2
  have secondKept := first.within.others mid second.user apart.symm
  have firstKept := second.within.others mid first.user apart
  refine ⟨(reg.run earlier).1, (first.apply mid).1, (second.apply mid).1,
    ((second.apply (first.apply mid).2).2.run later).1,
    ((second.apply (first.apply mid).2).2.run later).2, reg.length_run earlier, ?_, ?_⟩
  · rw [run_append]
    simp only [run, (second.within.alike _ _ secondKept).1, mid]
  · rw [run_append]
    simp only [run, (first.within.alike _ _ firstKept).1, apply_comm apart, mid]

/-- One user takes a host while another is removed, in either order. -/
theorem users_isolated_removal :
    let earlier : List Operation :=
      [.addPackage ⟨some 1, some "p"⟩ (.ofNat 7) (some [some "a"]) (some true),
        .addPackage ⟨some 2, some "p"⟩ (.ofNat 8) (some [some "a"]) (some true)]
    let selection : Operation := .setSelected ⟨some 1, some "p"⟩ (some "a")
    let removal : Operation := .removeUser (some 2)
    let later : List Operation := [.setSelected ⟨some 2, some "p"⟩ (some "a")]
    selection.user ≠ removal.user ∧
      (empty.run (earlier ++ selection :: removal :: later)).2 =
        (empty.run (earlier ++ removal :: selection :: later)).2 := by
  intro earlier selection removal later
  have apart : selection.user ≠ removal.user := by decide
  obtain ⟨_, _, _, _, _, _, one, other⟩ :=
    (users_isolated empty).2 earlier selection removal later apart
  exact ⟨apart, (congrArg Prod.snd one).trans (congrArg Prod.snd other).symm⟩

end Registry

end LinkOwnership
