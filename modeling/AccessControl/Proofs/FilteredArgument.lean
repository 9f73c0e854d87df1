import AccessControl.Proofs.AuthorizedCall

/-!
# The argument that a filter narrows

The filter before a call applies to one argument: the one that its policy declares, or the only collection if none is
declared. `Attribute.Narrows` says what the call is after the filter, and `Attribute.TargetFlaw` lists why there may be
no argument to filter. The main statement is `Interceptor.invoke_narrows_target`: the filter succeeds with exactly the
calls that are narrowed in this way, the later stages see the narrowed call, and a call without an argument to filter
ends as misconfigured before it is made.

## Implementation notes

The code looks for the target first and for its value afterwards, so the cases of both are told in one place
(`target_or_flaw`). That there is nothing else to be told is the uniqueness of the target.
-/
namespace AccessControl

section Target

variable (a : Attribute) (call : Invocation)

/-- The argument that a filter applies to. -/
inductive Attribute.Targets : String → Prop
  | declared {target : String} (h : a.filterTarget = some target) : Targets target
  | only {target : String} (h : a.filterTarget = none)
      (honly : ∀ name, (∃ items, call.arguments.get? name = some (.array items)) ↔ name = target) : Targets target

/-- The ways in which a call can have no collection for a filter to apply to. -/
inductive Attribute.TargetFlaw : Misconfiguration → Prop
  | unknown {target : String} (h : a.filterTarget = some target) (hnone : call.arguments.get? target = none) :
      TargetFlaw (.unknownFilterTarget call.method.text target)
  | noCollection {target : String} {v : Json} (h : a.filterTarget = some target)
      (hv : call.arguments.get? target = some v) (hother : ∀ items, v ≠ .array items) :
      TargetFlaw (.filtersNoCollection a.program.source)
  | none (h : a.filterTarget = none) (hnone : ∀ name items, call.arguments.get? name ≠ some (.array items)) :
      TargetFlaw (.noFilterTarget call.method.text)
  | several {first second : String} {items others : List Json} (h : a.filterTarget = none) (hne : first ≠ second)
      (hfirst : call.arguments.get? first = some (.array items))
      (hsecond : call.arguments.get? second = some (.array others)) :
      TargetFlaw (.severalFilterTargets call.method.text)

/-- After a filter, one argument has those of its elements for which the expression of the filter is true in the
original call, in their order, and all else is as it was. -/
structure Attribute.Narrows (o : Outcome Principal) (target : String) (call' : Invocation) : Prop where
  targets : a.Targets call target
  method_eq : call'.method = call.method
  targetType_eq : call'.targetType = call.targetType
  keys_eq : call'.arguments.keys = call.arguments.keys
  others : ∀ name, name ≠ target → call'.arguments.get? name = call.arguments.get? name
  narrowed : ∃ collection v, call.arguments.get? target = some collection ∧
    a.Leaves o (.before call) collection v ∧ call'.arguments.get? target = some v

end Target

namespace Attribute

variable {a : Attribute} {o : Outcome Principal} {call call' : Invocation} {target target' : String}
  {what : Misconfiguration}

theorem Targets.unique (h : a.Targets call target) (h' : a.Targets call target') : target = target' := by
  cases h with
  | declared h =>
      cases h' with
      | declared h' => exact Option.some.inj (h.symm.trans h')
      | only h' _ => cases h.symm.trans h'
  | only h honly =>
      cases h' with
      | declared h' => cases h.symm.trans h'
      | only _ honly' => exact (honly' target).mp ((honly target).mpr rfl)

/-- A target that is a collection has no flaw. -/
theorem TargetFlaw.not_targets (h : a.TargetFlaw call what) (htargets : a.Targets call target) (items : List Json) :
    call.arguments.get? target ≠ some (.array items) := by
  intro hitems
  cases h with
  | unknown h hnone =>
      cases htargets.unique (.declared h)
      cases hnone.symm.trans hitems
  | noCollection h hv hother =>
      cases htargets.unique (.declared h)
      exact hother items (Option.some.inj (hv.symm.trans hitems))
  | none _ hnone => exact hnone target items hitems
  | several h hne hfirst hsecond =>
      cases htargets with
      | declared h' => cases h.symm.trans h'
      | only _ honly => exact hne (((honly _).mp ⟨_, hfirst⟩).trans ((honly _).mp ⟨_, hsecond⟩).symm)

/-- A narrowed call is the call with what the filter leaves of the target. -/
theorem Narrows.eq_withArgument (h : a.Narrows call o target call') :
    ∃ collection v, call.arguments.get? target = some collection ∧ a.Leaves o (.before call) collection v ∧
      call' = call.withArgument target v := by
  obtain ⟨collection, v, hcollection, hleaves, hv⟩ := h.narrowed
  have harguments : call'.arguments = call.arguments.insert target v := by
    refine Dict.eq_of_get?_eq fun name => ?_
    rw [Dict.get?_insert]
    split
    · next hname => rw [hname, hv]
    · next hname => exact h.others name hname
  refine ⟨collection, v, hcollection, hleaves, ?_⟩
  calc
    call' = ⟨call'.method, call'.targetType, call'.arguments⟩ := rfl
    _ = call.withArgument target v := by rw [h.method_eq, h.targetType_eq, harguments]; rfl

theorem narrows_withArgument {collection v : Json} (htargets : a.Targets call target)
    (hcollection : call.arguments.get? target = some collection) (hleaves : a.Leaves o (.before call) collection v) :
    a.Narrows call o target (call.withArgument target v) where
  targets := htargets
  method_eq := rfl
  targetType_eq := rfl
  keys_eq := by
    refine Dict.keys_insert_of_contains ?_ v
    rw [Dict.contains, hcollection, Option.isSome_some]
  others := fun name hname => (Dict.get?_insert _ target name v).trans (if_neg hname)
  narrowed := ⟨collection, v, hcollection, hleaves, Dict.get?_insert_self _ target v⟩

end Attribute

namespace Interceptor

/-- The arguments that are collections, as the search for the target walks them. -/
theorem mem_collections {d : Dict Json} {name : String} {v : Json} :
    (name, v) ∈ d.entries.filter (fun e => e.2.isArray) ↔
      ∃ items, v = .array items ∧ d.get? name = some (.array items) := by
  rw [List.mem_filter]
  constructor
  · rintro ⟨hmem, harray⟩
    cases v with
    | array items => exact ⟨items, rfl, Entries.lookup_of_mem d.sorted hmem⟩
    | _ => cases harray
  · rintro ⟨items, rfl, hget⟩
    exact ⟨Entries.mem_of_lookup hget, rfl⟩

/-- Either a filter finds a collection to apply to, or it ends for one of the flaws. -/
theorem target_or_flaw (a : Attribute) (call : Invocation) :
    (∃ target items, filterTarget a call = .ok target ∧ a.Targets call target ∧
      call.arguments.get? target = some (.array items)) ∨
    ∃ what, a.TargetFlaw call what ∧ ∀ o,
      ((filterTarget a call).bind fun target =>
        (a.filtered o (.before call) ((call.arguments.get? target).getD .null)).map (call.withArgument target)) =
        misconfigured what := by
  unfold filterTarget
  cases hdeclared : a.filterTarget with
  | some target =>
      cases hv : call.arguments.get? target with
      | none =>
          refine .inr ⟨_, .unknown hdeclared hv, fun o => ?_⟩
          simp only [Dict.contains, hv, Option.isSome_none, Bool.false_eq_true, if_false]
          rfl
      | some v =>
          simp only [Dict.contains, hv, Option.isSome_some, if_true]
          cases v with
          | array items => exact .inl ⟨target, items, rfl, .declared hdeclared, hv⟩
          | _ =>
              refine .inr ⟨_, .noCollection hdeclared hv nofun, fun o => ?_⟩
              simp only [Except.bind, hv]
              rfl
  | none =>
      cases hfound : call.arguments.entries.filter fun e => e.2.isArray with
      | nil =>
          refine .inr ⟨_, .none hdeclared fun name items hget => ?_, fun _ => rfl⟩
          have hmem := mem_collections.mpr ⟨items, rfl, hget⟩
          rw [hfound] at hmem
          cases hmem
      | cons first rest =>
          obtain ⟨name, v⟩ := first
          obtain ⟨items, rfl, hfirst⟩ := mem_collections.mp (hfound ▸ List.mem_cons_self)
          cases rest with
          | nil =>
              refine .inl ⟨name, items, rfl, .only hdeclared fun other => ⟨?_, fun h => ⟨items, h ▸ hfirst⟩⟩, hfirst⟩
              rintro ⟨others, hother⟩
              have hmem := mem_collections.mpr ⟨others, rfl, hother⟩
              rw [hfound, List.mem_singleton] at hmem
              exact congrArg Prod.fst hmem
          | cons second rest =>
              obtain ⟨name', v'⟩ := second
              obtain ⟨others, rfl, hsecond⟩ :=
                mem_collections.mp (hfound ▸ List.mem_cons_of_mem _ List.mem_cons_self)
              have hlt : name < name' := by
                have hsorted := call.arguments.sorted.filter fun e => e.2.isArray
                rw [hfound] at hsorted
                exact (List.pairwise_cons.mp hsorted).1 _ List.mem_cons_self
              have hne : name ≠ name' := fun heq => String.lt_irrefl _ (heq ▸ hlt)
              exact .inr ⟨_, .several hdeclared hne hfirst hsecond, fun _ => rfl⟩

section Narrowing

variable {i : Interceptor} {limit : Nat} {o : Outcome Principal} {a : Attribute} {call call' : Invocation}

theorem preFiltered_of_policy (hpolicy : i.scan.policyFor limit .preFilter call.site = .ok (some a)) :
    i.preFiltered limit o call = (filterTarget a call).bind fun target =>
      (a.filtered o (.before call) ((call.arguments.get? target).getD .null)).map (call.withArgument target) := by
  rw [preFiltered, hpolicy]
  rfl

/-- The filter before a call succeeds with exactly the narrowed calls. -/
theorem preFiltered_eq_ok_iff_narrows (hpolicy : i.scan.policyFor limit .preFilter call.site = .ok (some a)) :
    i.preFiltered limit o call = .ok call' ↔ ∃ target, a.Narrows call o target call' := by
  rw [preFiltered_of_policy hpolicy]
  rcases target_or_flaw a call with ⟨target, items, htarget, htargets, hitems⟩ | ⟨what, hflaw, hfails⟩
  · rw [htarget]
    change (a.filtered o (.before call) ((call.arguments.get? target).getD .null)).map (call.withArgument target) =
      .ok call' ↔ _
    rw [hitems, Option.getD_some, Outcome.map_eq_ok]
    simp only [Attribute.filtered_eq_ok]
    constructor
    · rintro ⟨v, hleaves, rfl⟩
      exact ⟨target, Attribute.narrows_withArgument htargets hitems hleaves⟩
    · rintro ⟨target', h⟩
      cases h.targets.unique htargets
      obtain ⟨collection, v, hcollection, hleaves, heq⟩ := h.eq_withArgument
      cases hitems.symm.trans hcollection
      exact ⟨v, hleaves, heq.symm⟩
  · rw [hfails o]
    refine iff_of_false nofun ?_
    rintro ⟨target, h⟩
    obtain ⟨-, -, hcollection, ⟨items, rfl, -⟩, -⟩ := h.narrowed
    exact hflaw.not_targets h.targets items hcollection

/-- Without a collection to filter a call is misconfigured. -/
theorem preFiltered_of_no_target (hpolicy : i.scan.policyFor limit .preFilter call.site = .ok (some a))
    (hnone : ∀ target items, a.Targets call target → call.arguments.get? target ≠ some (.array items)) :
    ∃ what, a.TargetFlaw call what ∧ i.preFiltered limit o call = misconfigured what := by
  rcases target_or_flaw a call with ⟨target, items, -, htargets, hitems⟩ | ⟨what, hflaw, hfails⟩
  · exact absurd hitems (hnone target items htargets)
  · exact ⟨what, hflaw, (preFiltered_of_policy hpolicy).trans (hfails o)⟩

/-- A failure of the filter ends the call before it is made. -/
theorem answer_of_preFiltered_error {e : AccessError} (h : i.preFiltered limit o call = .error e)
    (body : Invocation → Outcome Json) :
    i.answer limit o call body = .error e ∧ i.callMade? limit o call = none := by
  rw [answer, callMade?, h]
  exact ⟨rfl, rfl⟩

end Narrowing

/-- Where a filter governs a call, it succeeds with exactly the calls in which one argument is narrowed and nothing else
is changed: the argument that the policy declares, or else the only collection, keeps those elements for which the
expression is true in the original call. The stages after the filter, and the call itself, see the narrowed call. If the
filter fails, the call fails in the same way and is not made; without a collection to filter it is misconfigured. -/
theorem invoke_narrows_target (i : Interceptor) (limit : Nat) {σ : Type} (supplier : Supplier σ) (s : Interception σ)
    (hs : i.Reachable limit s.resolvers) (call : Invocation) (body : Invocation → Outcome Json) (a : Attribute)
    (hpolicy : i.scan.policyFor limit .preFilter call.site = .ok (some a)) :
    let o := replayed (supplier s.source).1
    let prepared := ((i.preFilter supplier.memoized call).run { s with source := .fresh s.source }).1
    let invoked := (i.invoke supplier call body).run s
    (∀ call', prepared = .ok call' ↔ ∃ target, a.Narrows call o target call') ∧
    (∀ call', prepared = .ok call' →
      invoked.1 = (i.ending limit o call' body (i.answerBefore limit o call')).1 ∧
      invoked.2.made = s.made ++ (i.ending limit o call' body (i.answerBefore limit o call')).2) ∧
    (∀ e, prepared = .error e → invoked.1 = .error e ∧ invoked.2.made = s.made) ∧
    ((∀ target items, a.Targets call target → call.arguments.get? target ≠ some (.array items)) →
      ∃ what, a.TargetFlaw call what ∧ invoked.1 = misconfigured what ∧ invoked.2.made = s.made) := by
  intro o prepared invoked
  have hprepared : prepared = i.preFiltered limit o call :=
    (preFilter_yields call _ (under_fresh supplier hs.sound)).1
  obtain ⟨hanswer, hmade, -⟩ := invoke_run supplier hs.sound call body
  have hfails : ∀ e, i.preFiltered limit o call = .error e → invoked.1 = .error e ∧ invoked.2.made = s.made := by
    intro e he
    obtain ⟨herror, hnone⟩ := answer_of_preFiltered_error he body
    rw [herror] at hanswer
    rw [hnone, Option.toList_none, List.append_nil] at hmade
    exact ⟨hanswer, hmade⟩
  rw [hprepared]
  refine ⟨fun call' => preFiltered_eq_ok_iff_narrows hpolicy, fun call' hcall => ?_, hfails, fun hnone => ?_⟩
  · obtain ⟨hanswers, hcalls⟩ := Prod.mk.inj (answer_and_call hcall body)
    rw [hanswers] at hanswer
    rw [hcalls] at hmade
    exact ⟨hanswer, hmade⟩
  · obtain ⟨what, hflaw, hwhat⟩ := preFiltered_of_no_target (o := o) hpolicy hnone
    exact ⟨what, hflaw, hfails _ hwhat⟩

/-- A filter counts the ids of the call while it narrows them, and a policy counts those that are left. -/
theorem invoke_narrows_target_of_ids :
    let filter : Policy := { kind := .preFilter, expression := "filterObject == size(args.ids)" }
    let guard : Policy := { kind := .preAuthorize, expression := "size(args.ids) == 1" }
    let i : Interceptor :=
      { scan := fun _ _ kind => .ok (match kind with
          | .preFilter => some filter
          | .preAuthorize => some guard
          | _ => none) }
    let s : Interception Unit := ⟨(), .ofStages { engine := { maxLength := 64 } }, []⟩
    let supplier := Supplier.fixed (.ok (.named "alice"))
    let call : Invocation :=
      { method := ⟨"Doc", "share"⟩
        arguments := .ofList [("ids", .array [.integer 1, .integer 2]), ("note", .string "read")] }
    i.Reachable 64 s.resolvers ∧ ∃ a call', i.scan.policyFor 64 .preFilter call.site = .ok (some a) ∧
      a.Narrows call (.ok (.named "alice")) "ids" call' ∧
      ((i.invoke supplier call fun _ => .ok .null).run s).2.made = [call'] := by
  intro filter guard i s supplier call
  have hs : i.Reachable 64 s.resolvers := .start
  obtain ⟨p, hp⟩ : ∃ p, Expr.Program.ofText 64 filter.expression = .ok p :=
    Outcome.exists_ok_of_isOk (by decide +kernel)
  let a : Attribute := ⟨.preFilter, p, none, none⟩
  have hpolicy : i.scan.policyFor 64 .preFilter call.site = .ok (some a) :=
    Scanner.policyFor_of_found (p := filter) rfl hp
  obtain ⟨call', hfiltered⟩ := Outcome.exists_ok_of_isOk
    (x := ((i.preFilter supplier.memoized call).run { s with source := .fresh s.source }).1) (by decide +kernel)
  obtain ⟨hnarrows, hends, -, -⟩ := invoke_narrows_target i 64 supplier s hs call (fun _ => .ok .null) a hpolicy
  have hids : a.Narrows call (.ok (.named "alice")) "ids" call' := by
    obtain ⟨target, htarget⟩ := (hnarrows call').mp hfiltered
    cases htarget.targets with
    | declared h => cases h
    | only _ honly => rwa [← (honly "ids").mp ⟨[.integer 1, .integer 2], rfl⟩] at htarget
  have hgoes : (((i.preFilter supplier.memoized call).run { s with source := .fresh s.source }).1.bind fun call' =>
      (i.answerBefore 64 (.ok (.named "alice")) call').map Option.isNone) = .ok true := by decide +kernel
  rw [hfiltered] at hgoes
  obtain ⟨before, hbefore, hnone⟩ := Outcome.map_eq_ok.mp hgoes
  obtain ⟨-, hmade⟩ := hends call' hfiltered
  refine ⟨hs, a, call', hpolicy, hids, hmade.trans ?_⟩
  change s.made ++ (i.ending 64 (.ok (.named "alice")) call' _
    (i.answerBefore 64 (.ok (.named "alice")) call')).2 = [call']
  rw [hbefore, Option.isNone_iff_eq_none.mp hnone]
  rfl

end Interceptor

end AccessControl
