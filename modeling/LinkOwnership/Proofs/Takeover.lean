/-
# LinkOwnership.Proofs.Takeover -- when a stored record is taken over, and what it replaces

A record that is restored claims the hosts that it has selected, and the approved ones that it bears
out.  Other packages keep it out by what they have of these hosts (`Scope.KeepsOut`), and nothing
else does: not the record that the package has had until then, which may claim the same hosts in
other ways (`Scope.Consistent.room_iff`).

A record that is let in is all that is left of its package, in the records and in both indexes, and
the other packages have what they had (`Registry.TakesOver`, `Registry.restore_takes_over`).
-/
import LinkOwnership.Proofs.Frame
import LinkOwnership.Proofs.Selection

namespace LinkOwnership

set_option autoImplicit false

open LinkOwnership.Text (LooseString)

/-! ## What stands in the way -/

/-- A record has a host as verified that the approved ones list in some spelling. -/
def Record.BearsOut (r : Record) (approved : List LooseString) (host : LooseString) : Prop :=
  r.hosts.get? host = some .verified ∧ ∃ spelling ∈ approved, Host.normalize spelling = host

theorem Registry.mem_approvalsOf_normalize {r : Record} {approved : List LooseString}
    {host : LooseString} :
    host ∈ approvalsOf r (approved.map Host.normalize) ↔ r.BearsOut approved host := by
  rw [mem_approvalsOf, List.mem_map, Record.BearsOut, and_comm]

namespace Scope

variable {user : Int} {s s' : Scope} {q : String} {r : Record} {approved : List LooseString}

/-- The other package `q` keeps a record out: it has the user's selection of a host that the record
has selected, or the slot of one that the record is approved for. -/
def KeepsOut (s : Scope) (q : String) (r : Record) (approved : List LooseString) : Prop :=
  q ≠ r.packageName ∧ ∃ host,
    r.hosts.get? host = some .selected ∧ s.HasSelection q host ∨
      r.BearsOut approved host ∧ s.stateOf? q host = some .selected

/-- A record finds room exactly when nobody keeps it out. -/
theorem Consistent.room_iff (consistent : s.Consistent user) :
    s.conflict? r (Registry.approvalsOf r (approved.map Host.normalize)) = none ↔
      ¬ ∃ q, s.KeepsOut q r approved := by
  rw [conflict?_eq_none_iff]
  constructor
  · rintro ⟨ofSelected, ofApproved⟩ ⟨q, other, host, ⟨selected, rival | rival⟩ | ⟨borne, rival⟩⟩
    · exact other ((ofSelected host selected).1 q ((consistent.slot_iff host q).2 rival))
    · exact other ((ofSelected host selected).2 q rival)
    · exact other (ofApproved host (Registry.mem_approvalsOf_normalize.2 borne) q
        ((consistent.slot_iff host q).2 rival))
  · intro free
    refine ⟨fun host selected => ⟨fun q held => ?_, fun q shared => ?_⟩, fun host listed q held => ?_⟩
    all_goals by_contra other
    · have rival := (consistent.slot_iff host q).1 held
      exact free ⟨q, other, host, Or.inl ⟨selected, Or.inl rival⟩⟩
    · exact free ⟨q, other, host, Or.inl ⟨selected, Or.inr shared⟩⟩
    · have rival := (consistent.slot_iff host q).1 held
      exact free ⟨q, other, host, Or.inr ⟨Registry.mem_approvalsOf_normalize.1 listed, rival⟩⟩

end Scope

namespace Registry

variable {reg reg' : Registry} {user : Int} {q : String} {r : Record} {approved : List LooseString}

theorem SameHoldings.stateOf? (same : SameHoldings user q reg reg') (host : LooseString) :
    (reg'.scopeOrEmpty user).stateOf? q host = (reg.scopeOrEmpty user).stateOf? q host := by
  rw [Scope.stateOf?, same.record, Scope.stateOf?]

/-- Who keeps a record out does so by what it has. -/
theorem SameHoldings.keepsOut_iff (same : SameHoldings r.user q reg reg') :
    (reg'.scopeOrEmpty r.user).KeepsOut q r approved ↔
      (reg.scopeOrEmpty r.user).KeepsOut q r approved := by
  simp only [Scope.KeepsOut, Scope.HasSelection, same.stateOf?, same.approvals]

/-! ## What is left of the package -/

/-- The record has come in the place of what its package had, and the other packages have what they
had before. -/
structure TakesOver (r : Record) (approved : List LooseString) (reg reg' : Registry) : Prop where
  record : reg'.userState ⟨some r.user, some r.packageName⟩ = .ok r
  slots : ∀ host : LooseString, (reg'.scopeOrEmpty r.user).exclusive[host]? = some r.packageName ↔
    r.hosts.get? host = some .selected
  approvals : ∀ host : LooseString, r.packageName ∈ (reg'.scopeOrEmpty r.user).approvedFor host ↔
    r.BearsOut approved host
  others : ∀ (user : Int) (q : String),
    (⟨some user, some q⟩ : PackageRef) ≠ ⟨some r.user, some r.packageName⟩ →
      SameHoldings user q reg reg'

theorem takesOver_install (consistent : reg.Consistent) (normal : r.Normal)
    (room : (reg.scopeOrEmpty r.user).conflict? r (approvalsOf r (approved.map Host.normalize)) =
      none) :
    TakesOver r approved reg (reg.putScope r.user ((reg.scopeOrEmpty r.user).install r
      (approvalsOf r (approved.map Host.normalize)))) := by
  have scope := consistent.scopeOrEmpty r.user
  obtain ⟨only, _⟩ := scope.install normal rfl room fun host member => (mem_approvalsOf.1 member).2
  have own := scope.own_install r (approvalsOf r (approved.map Host.normalize))
  constructor
  case others => exact fun user q other => (ChangesOnly.putScope only).sameHoldings other
  case record =>
    rw [userState_mk_eq_ok_iff, scopeOrEmpty_putScope, Scope.getElem?_install, if_pos rfl]
  all_goals
    intro host
    rw [scopeOrEmpty_putScope]
  case slots => exact (own host).1
  case approvals => exact (own host).2.trans mem_approvalsOf_normalize

/-- What becomes of a record that can be built, when no approved host is missing. -/
theorem restore_cases (consistent : reg.Consistent) {draft : Draft} (built : draft.build = .ok r)
    (approved : List LooseString) :
    (∃ reg', reg.restore draft (approved.map some) = (.ok (), reg') ∧
      (¬ ∃ q, (reg.scopeOrEmpty r.user).KeepsOut q r approved) ∧ TakesOver r approved reg reg') ∨
    ∃ host owner, reg.restore draft (approved.map some) = (.error (.hostOwned host owner), reg) ∧
      ∃ q, (reg.scopeOrEmpty r.user).KeepsOut q r approved := by
  have given : none ∉ approved.map some := by simp
  have same : (approved.map some).filterMap id = approved := by
    rw [List.filterMap_map, Function.id_comp, List.filterMap_some]
  have room : _ ↔ ¬ ∃ q, (reg.scopeOrEmpty r.user).KeepsOut q r approved :=
    (consistent.scopeOrEmpty r.user).room_iff
  rw [restore_of_build built given, same]
  cases conflict : (reg.scopeOrEmpty r.user).conflict? r
      (approvalsOf r (approved.map Host.normalize)) with
  | none =>
      exact Or.inl ⟨_, rfl, room.1 conflict,
        takesOver_install consistent (Record.normal_of_build built) conflict⟩
  | some why =>
      obtain ⟨host, owner, rfl⟩ := Scope.conflict?_eq_some conflict
      refine Or.inr ⟨host, owner, rfl, not_not.1 fun free => ?_⟩
      cases conflict.symm.trans (room.2 free)

theorem restore_ok_iff (consistent : reg.Consistent) {draft : Draft} (built : draft.build = .ok r) :
    (reg.restore draft (approved.map some)).1 = .ok () ↔
      ¬ ∃ q, (reg.scopeOrEmpty r.user).KeepsOut q r approved := by
  rcases restore_cases consistent built approved with
    ⟨reg', made, free, _⟩ | ⟨host, owner, refused, rival⟩
  · exact iff_of_true (congrArg Prod.fst made) free
  · rw [refused]
    exact iff_of_false nofun (not_not_intro rival)

theorem restore_hostOwned_iff (consistent : reg.Consistent) {draft : Draft}
    (built : draft.build = .ok r) :
    (∃ host owner, (reg.restore draft (approved.map some)).1 = .error (.hostOwned host owner)) ↔
      ∃ q, (reg.scopeOrEmpty r.user).KeepsOut q r approved := by
  rcases restore_cases consistent built approved with
    ⟨reg', made, free, _⟩ | ⟨host, owner, refused, rival⟩
  · rw [made]
    exact iff_of_false nofun free
  · exact iff_of_true ⟨host, owner, congrArg Prod.fst refused⟩ rival

/-- After any run, a record with its approved hosts is refused, in favour of the owner of a host, when
another package keeps it out, and otherwise it is taken over: the package has this record, the slots
of what it has selected and the approvals that it bears out, and nothing else, and all other packages
have what they had.  Whatever the package had before has no part in this: after any other run that
leads to the same for the other packages of the user, the record is let in just as well. -/
theorem restore_takes_over (ops : List Operation) {draft : Draft} {r : Record}
    (built : draft.build = .ok r) (approved : List LooseString) :
    let reg := (empty.run ops).2
    let call := reg.restore draft (approved.map some)
    ((∃ host owner, call.1 = .error (.hostOwned host owner)) ↔
      ∃ q, (reg.scopeOrEmpty r.user).KeepsOut q r approved) ∧
    (call.1 = .ok () ↔ ¬ ∃ q, (reg.scopeOrEmpty r.user).KeepsOut q r approved) ∧
    (call.1 = .ok () → TakesOver r approved reg call.2) ∧
    ∀ others : List Operation,
      (∀ q, q ≠ r.packageName → SameHoldings r.user q reg (empty.run others).2) →
        (((empty.run others).2.restore draft (approved.map some)).1 = .ok () ↔ call.1 = .ok ()) := by
  intro reg call
  have consistent : reg.Consistent := consistent_empty.run ops
  refine ⟨restore_hostOwned_iff consistent built, restore_ok_iff consistent built, fun made => ?_,
    fun others same => ?_⟩
  · rcases restore_cases consistent built approved with ⟨reg', done, _, takes⟩ | ⟨_, _, refused, _⟩
    · rw [show call.2 = reg' from congrArg Prod.snd done]
      exact takes
    · cases made.symm.trans (congrArg Prod.fst refused)
  · rw [restore_ok_iff (consistent_empty.run others) built, restore_ok_iff consistent built]
    refine not_congr (exists_congr fun q => ?_)
    by_cases own : q = r.packageName
    · exact iff_of_false (fun rival => rival.1 own) (fun rival => rival.1 own)
    · exact (same q own).keepsOut_iff

/-- The others have what they had when a package is removed. -/
theorem sameHoldings_removePackage (consistent : reg.Consistent) {package : String}
    (other : q ≠ package) :
    SameHoldings user q reg (reg.removePackage ⟨some user, some package⟩).2 := by
  rcases (removePackage_edits consistent ⟨some user, some package⟩).changesOne with
    same | ⟨v, p, names, only⟩
  · rw [same]
    exact .refl user q reg
  · cases names
    exact only.sameHoldings fun own => other (Option.some.inj (PackageRef.mk.inj own).2)

/-- The holder of one host and only sharer of another, with the two the other way round. -/
def exchanged : Record :=
  ⟨.ofNat 9, "p", 1, true, ⟨[("b", .selected), ("a", .verified)], by decide⟩⟩

/-- Its rival, with a host that the other one has been approved for. -/
def intruder : Record := ⟨.ofNat 8, "q", 1, true, ⟨[("b", .selected)], by decide⟩⟩

/-- Its own former claims do not keep the one out, whether they are still there or not, and they keep
the other one out. -/
theorem restore_takes_over_rivals :
    let reg := (empty.run rivals).2
    let without := (empty.run (rivals ++ [.removePackage ⟨some 1, some "p"⟩])).2
    let approved : List LooseString := [" A ", "b"]
    exchanged.toDraft.build = .ok exchanged ∧ intruder.toDraft.build = .ok intruder ∧
      (reg.restore exchanged.toDraft (approved.map some)).1 = .ok () ∧
      TakesOver exchanged approved reg (reg.restore exchanged.toDraft (approved.map some)).2 ∧
      (∀ q, q ≠ "p" → SameHoldings 1 q reg without) ∧
      (without.restore exchanged.toDraft (approved.map some)).1 = .ok () ∧
      (reg.restore intruder.toDraft (([] : List LooseString).map some)).1 =
        .error (.hostOwned "b" "p") ∧
      ∃ q, (reg.scopeOrEmpty 1).KeepsOut q intruder [] := by
  have built : exchanged.toDraft.build = .ok exchanged := by cbv
  have built' : intruder.toDraft.build = .ok intruder := by cbv
  have made : ((empty.run rivals).2.restore exchanged.toDraft (some [some " A ", some "b"])).1 =
    .ok () := by cbv
  have refused : ((empty.run rivals).2.restore intruder.toDraft (some [])).1 =
    .error (.hostOwned "b" "p") := by cbv
  have kept : ∀ q, q ≠ "p" → SameHoldings 1 q (empty.run rivals).2
      (empty.run (rivals ++ [.removePackage ⟨some 1, some "p"⟩])).2 := by
    intro q other
    rw [run_append]
    exact sameHoldings_removePackage (consistent_empty.run rivals) other
  obtain ⟨_, _, takes, alike⟩ := restore_takes_over rivals built [" A ", "b"]
  obtain ⟨rule, _⟩ := restore_takes_over rivals built' []
  exact ⟨built, built', made, takes made, kept, (alike _ kept).2 made, refused,
    rule.1 ⟨"b", "p", refused⟩⟩

end Registry

end LinkOwnership
