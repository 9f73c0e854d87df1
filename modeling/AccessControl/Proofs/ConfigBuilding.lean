import AccessControl.Config.Sessions
import AccessControl.Proofs.Routing
import AccessControl.Proofs.ValidConfig

/-!
# What can go wrong with a valid configuration

A configuration is checked before anything is built from it, by rules that stand apart from the ones that building
applies. Here the two are compared. What a valid configuration may still have wrong is listed by `Config.RouteFlaw`
and `Config.ReferenceFlaw`, in terms of its settings: a pattern or an expression that cannot be read, and references
between types and templates that lead nowhere. The main statement, `valid_config_builds`, says that building fails
exactly if there is such a flaw, and that a failure is one of the flaws, so no rule of building is left that checking
overlooks.

## Implementation notes

`Outcome.FailsBy` relates an outcome to the flaws behind its failures. It has one rule for each construction of
outcomes, so the flaws of what is built are put together in the order of its definition.
-/
namespace AccessControl

namespace Outcome

variable {α β γ : Type} {o : Outcome α} {flaw flaw' : AccessError → Prop}

/-- An outcome is a failure exactly if there is a flaw, and the failure is one of the flaws. -/
structure FailsBy (o : Outcome α) (flaw : AccessError → Prop) : Prop where
  is_flaw : ∀ e, o = .error e → flaw e
  fails : ∀ e, flaw e → ∃ e', o = .error e'

namespace FailsBy

theorem exists_ok_iff (h : o.FailsBy flaw) : (∃ a, o = .ok a) ↔ ∀ e, ¬ flaw e := by
  constructor
  · rintro ⟨a, rfl⟩ e he
    obtain ⟨e', he'⟩ := h.fails e he
    cases he'
  · intro hnone
    cases o with
    | ok a => exact ⟨a, rfl⟩
    | error e => exact (hnone e (h.is_flaw e rfl)).elim

theorem congr (h : o.FailsBy flaw) (hiff : ∀ e, flaw e ↔ flaw' e) : o.FailsBy flaw' :=
  ⟨fun e he => (hiff e).mp (h.is_flaw e he), fun e he => h.fails e ((hiff e).mpr he)⟩

theorem ok (a : α) : FailsBy (.ok a) fun _ => False :=
  ⟨nofun, nofun⟩

theorem of_iff (h : ∀ e, o = .error e ↔ flaw e) : o.FailsBy flaw :=
  ⟨fun e => (h e).mp, fun e he => ⟨e, (h e).mpr he⟩⟩

theorem of_eq_ok (h : ∃ a, o = .ok a) : o.FailsBy fun _ => False := by
  obtain ⟨a, rfl⟩ := h
  exact ok a

theorem error (e : AccessError) : FailsBy (.error e : Outcome α) (· = e) :=
  ⟨fun e' h => by cases h; rfl, fun _ _ => ⟨e, rfl⟩⟩

theorem ite {p : Prop} [Decidable p] {x y : Outcome α} (hx : p → x.FailsBy flaw) (hy : ¬ p → y.FailsBy flaw') :
    (if p then x else y).FailsBy fun e => (p ∧ flaw e) ∨ (¬ p ∧ flaw' e) := by
  by_cases hp : p
  · simpa [hp] using hx hp
  · simpa [hp] using hy hp

/-- What follows fails by its own flaws, which do not depend on the value before it. -/
theorem bind {f : α → Outcome β} (ho : o.FailsBy flaw) (hf : ∀ a, o = .ok a → (f a).FailsBy flaw') :
    (o >>= f).FailsBy fun e => flaw e ∨ flaw' e := by
  cases o with
  | error e => exact ⟨fun e' he' => .inl (ho.is_flaw e' (by cases he'; rfl)), fun _ _ => ⟨e, rfl⟩⟩
  | ok a =>
      refine (hf a rfl).congr fun e => ⟨.inr, fun he => he.resolve_left fun hflaw => ?_⟩
      obtain ⟨e', he'⟩ := ho.fails e hflaw
      cases he'

theorem map {f : α → β} (ho : o.FailsBy flaw) : FailsBy (o.map f) flaw := by
  cases o with
  | error e => exact ⟨fun e' he' => ho.is_flaw e' (by cases he'; rfl), fun _ _ => ⟨e, rfl⟩⟩
  | ok a => exact ⟨nofun, fun e he => nomatch ho.fails e he⟩

theorem mapM {f : α → Outcome β} {flaw : α → AccessError → Prop} {l : List α} (h : ∀ a ∈ l, (f a).FailsBy (flaw a)) :
    (l.mapM f).FailsBy fun e => ∃ a ∈ l, flaw a e := by
  induction l with
  | nil => exact (ok []).congr (by simp)
  | cons a rest ih =>
      rw [List.mapM_cons]
      have hrest := ih fun b hb => h b (List.mem_cons_of_mem a hb)
      have hall := (h a List.mem_cons_self).bind fun b _ => hrest.bind fun bs _ => ok (b :: bs)
      exact hall.congr (by simp)

/-- Checks on a list whose members stand for those of another one fail by the flaws of the other ones. -/
theorem forM {f : β → Outcome Unit} {flaw : α → AccessError → Prop} {R : α → β → Prop} {l : List α} {l' : List β}
    (hl : List.Forall₂ R l l') (h : ∀ a b, R a b → (f b).FailsBy (flaw a)) :
    (l'.forM f).FailsBy fun e => ∃ a ∈ l, flaw a e := by
  induction hl with
  | nil => exact (ok ()).congr (by simp)
  | cons hab _ ih => exact ((h _ _ hab).bind fun _ _ => ih).congr (by simp)

end FailsBy

end Outcome

section Entries

variable {α β : Type} {R : String → α → β → Prop}

/-- Entries in the order of their names are kept as they are. -/
theorem Entries.ofList_of_sorted {entries : List (String × α)} (h : Sorted entries) : ofList entries = entries := by
  -- An entry goes behind the ones that were kept before it.
  have hinsert : ∀ (kept : List (String × α)) (e : String × α), (∀ a ∈ kept, a.1 < e.1) →
      insert e.1 e.2 kept = kept ++ [e] := by
    intro kept e hkept
    induction kept with
    | nil => rfl
    | cons a rest ih =>
        obtain ⟨hlt, hrest⟩ := List.forall_mem_cons.mp hkept
        have hgt : ¬ e.1 < a.1 := String.lt_asymm hlt
        rw [List.cons_append, ← ih hrest]
        simp [insert, hlt, hgt]
  suffices hall : ∀ kept : List (String × α), Sorted (kept ++ entries) →
      entries.foldl (fun acc e => insert e.1 e.2 acc) kept = kept ++ entries from hall [] h
  clear h
  induction entries with
  | nil => exact fun kept _ => (List.append_nil kept).symm
  | cons e rest ih =>
      intro kept hkept
      have hbefore : ∀ a ∈ kept, a.1 < e.1 := fun a ha =>
        (List.pairwise_append.mp hkept).2.2 a ha e List.mem_cons_self
      rw [List.append_cons] at hkept ⊢
      rw [List.foldl_cons, hinsert kept e hbefore]
      exact ih _ hkept

/-- Values that are inserted in the order of their names are kept in this order. -/
theorem Dict.entries_foldl_insert {name : α → String} {l : List α}
    (h : Entries.Sorted (l.map fun a => (name a, a))) :
    (l.foldl (fun d a => d.insert (name a) a) (∅ : Dict α)).entries = l.map fun a => (name a, a) := by
  have hentries (d : Dict α) : (l.foldl (fun d a => d.insert (name a) a) d).entries =
      (l.map fun a => (name a, a)).foldl (fun acc e => Entries.insert e.1 e.2 acc) d.entries := by
    clear h
    induction l generalizing d with
    | nil => rfl
    | cons a rest ih => exact ih (d.insert (name a) a)
  exact (hentries ∅).trans (Entries.ofList_of_sorted h)

/-- Two lists of entries have the same names in the same order, with values that stand for one another. -/
def Entries.Matched (R : String → α → β → Prop) : List (String × α) → List (String × β) → Prop :=
  List.Forall₂ fun a b => b.1 = a.1 ∧ R a.1 a.2 b.2

theorem Entries.Matched.names {l : List (String × α)} {l' : List (String × β)} (h : Matched R l l') :
    l'.map Prod.fst = l.map Prod.fst := by
  induction h with
  | nil => rfl
  | cons hab _ ih => rw [List.map_cons, List.map_cons, hab.1, ih]

theorem Entries.Matched.sorted {l : List (String × α)} {l' : List (String × β)} (h : Matched R l l') (hl : Sorted l) :
    Sorted l' := by
  have hnames : (l'.map Prod.fst).Pairwise (· < ·) := by
    rw [h.names]
    exact List.pairwise_map.mpr hl
  exact List.pairwise_map.mp hnames

theorem Entries.Matched.lookup {l : List (String × α)} {l' : List (String × β)} (h : Matched R l l') (k : String) :
    Option.Rel (R k) (l.lookup k) (l'.lookup k) := by
  induction h with
  | nil => exact .none
  | @cons a b _ _ hab _ ih =>
      obtain ⟨k', x⟩ := a
      obtain ⟨k'', y⟩ := b
      obtain ⟨rfl, hxy⟩ := hab
      rw [lookup_cons, lookup_cons]
      by_cases hk : k = k''
      · subst hk
        simpa using Option.Rel.some hxy
      · simpa [hk] using ih

theorem Entries.Matched.any_lookup {l : List (String × α)} {l' : List (String × β)} (h : Matched R l l') (k : String)
    {p : α → Bool} {q : β → Bool} (hpq : ∀ x y, R k x y → p x = q y) : (l.lookup k).any p = (l'.lookup k).any q := by
  have hrel := h.lookup k
  generalize l.lookup k = x at hrel
  generalize l'.lookup k = y at hrel
  cases hrel with
  | none => rfl
  | some hxy => exact hpq _ _ hxy

theorem Entries.Matched.isSome_lookup {l : List (String × α)} {l' : List (String × β)} (h : Matched R l l')
    (k : String) : (l.lookup k).isSome = (l'.lookup k).isSome := by
  simpa using h.any_lookup k (p := fun _ => true) (q := fun _ => true) fun _ _ _ => rfl

end Entries

section Requests

open AccessControl.Expr (Engine Program Term)

/-- What is wrong with the text of a pattern. -/
inductive PathPattern.Flaw (text : String) : AccessError → Prop
  | relative (hhead : text.toList.head? ≠ some '/') : Flaw text (.configuration (.relativePattern text))
  | malformed {reason : GlobError} (hhead : text.toList.head? = some '/') (hglob : Glob.parse text = .error reason) :
      Flaw text (.configuration (.malformedPattern text reason))

/-- What is wrong with the text of an expression, its length apart. -/
inductive Expr.Program.Flaw (source : String) : AccessError → Prop
  | blank (hblank : Text.isBlankText source = true) : Flaw source (.compile source "expression cannot be empty")
  | unexpectedToken (hblank : Text.isBlankText source = false) (hterm : Term.parse source = .error .unexpectedToken) :
      Flaw source (.compile source "Error parsing: unexpected token")
  | valuelessLiteral (hblank : Text.isBlankText source = false) (hterm : Term.parse source = .error .valuelessLiteral) :
      Flaw source (.valuelessLiteral source)

/-- What is wrong with the routes of a valid configuration. -/
inductive Config.RouteFlaw (c : Config) : AccessError → Prop
  | noRoutes (hroutes : c.routes = []) : RouteFlaw c (.configuration .noRoutes)
  | pattern {r : RouteRule} {e : AccessError} (hr : r ∈ c.routes) (he : PathPattern.Flaw r.pattern e) : RouteFlaw c e
  | expression {r : RouteRule} {source : String} {e : AccessError} (hr : r ∈ c.routes)
      (hsource : r.expression = some source) (he : Program.Flaw source e) : RouteFlaw c e

theorem PathPattern.parse_failsBy (text : String) : (parse text).FailsBy (Flaw text) := by
  refine .of_iff fun e => ⟨fun h => ?_, ?_⟩
  · unfold parse at h
    split at h
    · next hhead =>
        split at h
        · cases h
        · next reason hglob =>
            cases h
            exact .malformed hhead hglob
    · next hhead =>
        cases h
        exact .relative hhead
  · rintro (hhead | ⟨hhead, hglob⟩)
    · exact if_neg hhead
    · rw [parse, if_pos hhead, hglob]
      rfl

theorem Expr.Program.ofText_failsBy {engine : EngineSettings} {source : String} (hfits : engine.Fits source) :
    (ofText engine.maxExpressionLength source).FailsBy (Flaw source) := by
  have hlength : (0 < engine.maxExpressionLength && engine.maxExpressionLength < source.utf8ByteSize) = false := by
    rcases hfits with hfits | hfits <;> simp [hfits]
  refine .of_iff fun e => ⟨fun h => ?_, ?_⟩
  · unfold ofText at h
    split at h
    · next hblank =>
        cases h
        exact .blank hblank
    · next hblank =>
        rw [Bool.not_eq_true] at hblank
        rw [if_neg (by simp [hlength])] at h
        split at h
        · cases h
        · next hterm =>
            cases h
            exact .unexpectedToken hblank hterm
        · next hterm =>
            cases h
            exact .valuelessLiteral hblank hterm
  · rintro (hblank | ⟨hblank, hterm⟩ | ⟨hblank, hterm⟩)
    · exact if_pos hblank
    · simp [ofText, hblank, hlength, hterm]
    · simp [ofText, hblank, hlength, hterm]

/-- The methods that checking knows are the ones that a request can have. -/
theorem HttpMethod.exists_ofName? {name : String} (h : name ∈ ConfigFlaw.methods) : ∃ m, ofName? name = some m := by
  simp only [ConfigFlaw.methods, List.mem_cons, List.not_mem_nil, or_false] at h
  rcases h with rfl | rfl | rfl | rfl | rfl | rfl | rfl | rfl <;> exact ⟨_, rfl⟩

namespace RouteRule

variable {engine : EngineSettings} {r : RouteRule}

theorem Valid.matcher_failsBy (h : r.Valid engine) : r.matcher.FailsBy (PathPattern.Flaw r.pattern) := by
  refine ((PathPattern.parse_failsBy r.pattern).bind fun pattern _ => ?_).congr fun e => or_iff_left id
  cases hname : r.method with
  | none => exact .ok _
  | some name =>
      obtain ⟨m, hm⟩ := HttpMethod.exists_ofName? (h.method name hname)
      simp only [HttpMethod.parse, hm]
      exact .ok _

/-- A route that has one access rule has an expression exactly if the rule is one. -/
theorem Valid.rule?_eq_expression (h : r.Valid engine) {source : String} :
    r.rule? = some (.expression source) ↔ r.expression = some source := by
  have hrule := h.rule
  unfold rule? at hrule ⊢
  split at hrule
  · next hname _ hnone =>
      rw [hnone]
      refine ⟨fun hfixed => ?_, nofun⟩
      unfold AccessRule.ofName? at hfixed
      split at hfixed <;> cases hfixed
  · simp_all
  · simp_all
  · cases hrule

theorem Valid.guardFor_failsBy (h : r.Valid engine) :
    (r.guardFor engine.maxExpressionLength).FailsBy fun e =>
      ∃ source, r.expression = some source ∧ Program.Flaw source e := by
  simp only [← h.rule?_eq_expression]
  unfold guardFor
  cases hrule : r.rule? with
  | none =>
      have hsome := h.rule
      rw [hrule] at hsome
      cases hsome
  | some rule =>
      cases rule with
      | expression source =>
          have hfits := h.expression source (h.rule?_eq_expression.mp hrule)
          refine (Program.ofText_failsBy hfits).map.congr fun e => ?_
          simp
      | _ => exact (Outcome.FailsBy.ok _).congr (by simp)

theorem Valid.routeFor_failsBy (h : r.Valid engine) :
    (r.routeFor engine.maxExpressionLength).FailsBy fun e =>
      PathPattern.Flaw r.pattern e ∨ ∃ source, r.expression = some source ∧ Program.Flaw source e := by
  have hroute := h.matcher_failsBy.bind fun m _ => h.guardFor_failsBy.bind fun g _ => Outcome.FailsBy.ok (m, g)
  exact hroute.congr (by simp)

end RouteRule

theorem Config.Valid.guardFor_failsBy {c : Config} (h : c.Valid) :
    (c.guardFor c.engine.maxExpressionLength).FailsBy c.RouteFlaw := by
  have hroutes : (c.routes.mapM (RouteRule.routeFor c.engine.maxExpressionLength)).FailsBy _ :=
    .mapM fun r hr => (h.routes r hr).routeFor_failsBy
  have hrouted (routes : List (Matcher × RequestGuard))
      (hbuilt : c.routes.mapM (RouteRule.routeFor c.engine.maxExpressionLength) = .ok routes) :
      (Guard.ofRoutes PathParser.standard routes).FailsBy fun e => c.routes = [] ∧ e = .configuration .noRoutes := by
    have hlength : c.routes.length = routes.length := (Outcome.mapM_eq_ok.mp hbuilt).length_eq
    have hempty : routes.isEmpty = true ↔ c.routes = [] := by
      rw [List.isEmpty_iff_length_eq_zero, ← hlength, List.length_eq_zero_iff]
    refine (Outcome.FailsBy.ite (fun _ => .error _) fun _ => .ok _).congr fun e => ?_
    simp [hempty]
  refine (hroutes.bind hrouted).congr fun e => ⟨?_, ?_⟩
  · rintro (⟨r, hr, hflaw | ⟨source, hsource, hflaw⟩⟩ | ⟨hnone, rfl⟩)
    · exact .pattern hr hflaw
    · exact .expression hr hsource hflaw
    · exact .noRoutes hnone
  · rintro (hnone | ⟨hr, hflaw⟩ | ⟨hr, hsource, hflaw⟩)
    · exact .inr ⟨hnone, rfl⟩
    · exact .inl ⟨_, hr, .inl hflaw⟩
    · exact .inl ⟨_, hr, .inr ⟨_, hsource, hflaw⟩⟩

end Requests

section References

/-- A policy entry refers to a template that is not defined. -/
def PolicyEntry.Dangles (c : Config) (owner : String) (entry : PolicyEntry) (e : AccessError) : Prop :=
  ∃ template, entry.form? = some (.template template) ∧ c.templates.contains template = false ∧
    e = .configuration (.danglingComposition owner template)

/-- What is wrong with the references of a type. -/
inductive TypeSettings.Flaw (c : Config) (name : String) (s : TypeSettings) : AccessError → Prop
  | unknownSupertype {super : String} (hsuper : super ∈ s.superclass.toList ++ s.interfaces)
      (hunknown : c.types.contains super = false) : Flaw c name s (.configuration (.unknownSupertype name super))
  | interfaceAsSuperclass {super : String} {t : TypeSettings} (hsuper : s.superclass = some super)
      (ht : c.types.get? super = some t) (hkind : t.kind = "interface") :
      Flaw c name s (.configuration (.interfaceAsSuperclass name super))
  | dangling {entry : PolicyEntry} {e : AccessError} (hentry : entry ∈ s.allPolicies) (he : entry.Dangles c name e) :
      Flaw c name s e

/-- What is wrong with the types and templates of a valid configuration. -/
inductive Config.ReferenceFlaw (c : Config) : AccessError → Prop
  | interfaceSuperclass {name : String} {s : TypeSettings} (hs : (name, s) ∈ c.types.entries)
      (hkind : s.kind = "interface") (hsuper : s.superclass.isSome = true) :
      ReferenceFlaw c (.configuration (.interfaceSuperclass name))
  | type {name : String} {s : TypeSettings} {e : AccessError} (hs : (name, s) ∈ c.types.entries)
      (he : s.Flaw c name e) : ReferenceFlaw c e
  | template {name : String} {entries : List PolicyEntry} {entry : PolicyEntry} {e : AccessError}
      (ht : (name, entries) ∈ c.templates.entries) (hentry : entry ∈ entries) (he : entry.Dangles c name e) :
      ReferenceFlaw c e

/-- Uses are those that some policy entries stand for. -/
def PolicyEntry.StandFor (entries : List PolicyEntry) (uses : List PolicyUse) : Prop :=
  List.Forall₂ (fun e u => PolicyEntry.use e = .ok u) entries uses

theorem PolicyEntry.Valid.exists_use {engine : EngineSettings} {e : PolicyEntry} (h : e.Valid engine) :
    ∃ u, e.use = .ok u := by
  obtain ⟨form, hform⟩ := Option.isSome_iff_exists.mp h.form
  unfold use
  rw [hform]
  cases form <;> exact ⟨_, rfl⟩

theorem PolicyEntry.exists_uses {engine : EngineSettings} {entries : List PolicyEntry}
    (h : ∀ e ∈ entries, e.Valid engine) : ∃ uses, entries.mapM use = .ok uses :=
  Outcome.exists_mapM_eq_ok.mpr fun e he => (h e he).exists_use

/-- What a declaration has from the settings of its type. -/
structure TypeSettings.Declares (s : TypeSettings) (name : String) (d : TypeDeclaration) : Prop where
  name_eq : d.name = name
  interface : d.kind = .interface ↔ s.kind = "interface"
  superclass : d.superclass = s.superclass
  interfaces : d.interfaces = s.interfaces
  uses : PolicyEntry.StandFor s.allPolicies (d.uses ++ d.methods.entries.flatMap Prod.snd)

theorem TypeKind.ofName?_eq_interface {name : String} : ofName? name = some .interface ↔ name = "interface" := by
  constructor
  · intro h
    unfold ofName? at h
    split at h <;> simp_all
  · rintro rfl
    rfl

namespace TypeSettings

variable {engine : EngineSettings} {s : TypeSettings} {name : String}

/-- The declared methods have the names of the configured ones and what their entries stand for. -/
theorem matched_of_mapM_methods {methods : List (String × List PolicyUse)}
    (h : (s.methods.entries.mapM fun m => do return (m.1, ← m.2.mapM PolicyEntry.use)) = (.ok methods : Outcome _)) :
    Entries.Matched (fun _ => PolicyEntry.StandFor) s.methods.entries methods := by
  refine (Outcome.mapM_eq_ok.mp h).imp fun m m' hm => ?_
  obtain ⟨uses, huses, hm⟩ := Outcome.bind_eq_ok.mp hm
  cases hm
  exact ⟨rfl, Outcome.mapM_eq_ok.mp huses⟩

theorem declares_of_eq_ok {d : TypeDeclaration} (h : s.declaration name = .ok d) : s.Declares name d := by
  unfold declaration at h
  cases hkind : TypeKind.ofName? s.kind with
  | none =>
      rw [hkind] at h
      cases h
  | some kind =>
      simp only [hkind, pure_bind] at h
      obtain ⟨uses, huses, h⟩ := Outcome.bind_eq_ok.mp h
      obtain ⟨methods, hmethods, h⟩ := Outcome.bind_eq_ok.mp h
      have hmatched := matched_of_mapM_methods hmethods
      have hkept : (Dict.ofList methods).entries = methods :=
        Entries.ofList_of_sorted (hmatched.sorted s.methods.sorted)
      split at h
      · cases h
      · cases h
        refine ⟨rfl, ?_, rfl, rfl, ?_⟩
        · rw [← TypeKind.ofName?_eq_interface, hkind, Option.some_inj]
        · rw [hkept]
          exact List.rel_append (Outcome.mapM_eq_ok.mp huses) (List.rel_flatMap hmatched fun _ _ hm => hm.2)

theorem Valid.declaration_failsBy (h : s.Valid engine) (name : String) :
    (s.declaration name).FailsBy fun e =>
      s.kind = "interface" ∧ s.superclass.isSome = true ∧ e = .configuration (.interfaceSuperclass name) := by
  obtain ⟨kind, hkind⟩ : ∃ kind, TypeKind.ofName? s.kind = some kind := by
    rcases h.kind with hkind | hkind <;> exact ⟨_, by rw [hkind]; rfl⟩
  obtain ⟨uses, huses⟩ := PolicyEntry.exists_uses fun e he => h.policies e (List.mem_append_left _ he)
  obtain ⟨methods, hmethods⟩ : ∃ methods,
      (s.methods.entries.mapM fun m => do return (m.1, ← m.2.mapM PolicyEntry.use)) = (.ok methods : Outcome _) := by
    refine Outcome.exists_mapM_eq_ok.mpr fun m hm => ?_
    obtain ⟨uses, huses⟩ := PolicyEntry.exists_uses fun e he =>
      h.policies e (List.mem_append_right _ (List.mem_flatMap.mpr ⟨m, hm, he⟩))
    exact ⟨(m.1, uses), by rw [huses]; rfl⟩
  unfold declaration
  simp only [hkind, huses, hmethods, pure_bind, Outcome.ok_bind]
  refine (Outcome.FailsBy.ite (fun _ => .error _) fun _ => .ok _).congr fun e => ?_
  simp [← TypeKind.ofName?_eq_interface, hkind, and_assoc]

end TypeSettings

/-- A registry holds what the types and templates of a configuration declare. -/
structure Config.Registers (c : Config) (r : Registry) : Prop where
  types : Entries.Matched (fun name s d => TypeSettings.Declares s name d) c.types.entries r.types.entries
  templates : Entries.Matched (fun name entries t => t.name = name ∧ PolicyEntry.StandFor entries t.uses)
    c.templates.entries r.templates.entries

namespace Registry

theorem foldl_withType (r : Registry) (l : List TypeDeclaration) :
    l.foldl withType r = { r with types := l.foldl (fun d t => d.insert t.name t) r.types } := by
  induction l generalizing r with
  | nil => rfl
  | cons t rest ih => exact ih (r.withType t)

theorem foldl_withTemplate (r : Registry) (l : List PolicyTemplate) :
    l.foldl withTemplate r = { r with templates := l.foldl (fun d t => d.insert t.name t) r.templates } := by
  induction l generalizing r with
  | nil => rfl
  | cons t rest ih => exact ih (r.withTemplate t)

end Registry

namespace Config

variable {c : Config} {r : Registry}

theorem registers_of_built {templates : List PolicyTemplate} {types : List TypeDeclaration}
    (htemplates : (c.templates.entries.mapM fun t => do return (PolicyTemplate.mk t.1 (← t.2.mapM PolicyEntry.use))) =
      (.ok templates : Outcome _))
    (htypes : (c.types.entries.mapM fun t => t.2.declaration t.1) = .ok types) :
    c.Registers (types.foldl Registry.withType (templates.foldl Registry.withTemplate {})) := by
  have hmatchedTypes : Entries.Matched (fun name s d => TypeSettings.Declares s name d) c.types.entries
      (types.map fun d => (d.name, d)) := by
    refine List.forall₂_map_right_iff.mpr ((Outcome.mapM_eq_ok.mp htypes).imp fun t d hd => ?_)
    have hdeclares := TypeSettings.declares_of_eq_ok hd
    exact ⟨hdeclares.name_eq, hdeclares⟩
  have hmatchedTemplates : Entries.Matched (fun name entries t => t.name = name ∧ PolicyEntry.StandFor entries t.uses)
      c.templates.entries (templates.map fun t => (t.name, t)) := by
    refine List.forall₂_map_right_iff.mpr ((Outcome.mapM_eq_ok.mp htemplates).imp fun t d hd => ?_)
    obtain ⟨uses, huses, hd⟩ := Outcome.bind_eq_ok.mp hd
    cases hd
    exact ⟨rfl, rfl, Outcome.mapM_eq_ok.mp huses⟩
  rw [Registry.foldl_withTemplate, Registry.foldl_withType]
  constructor
  · rw [← Dict.entries_foldl_insert (hmatchedTypes.sorted c.types.sorted)] at hmatchedTypes
    exact hmatchedTypes
  · rw [← Dict.entries_foldl_insert (hmatchedTemplates.sorted c.templates.sorted)] at hmatchedTemplates
    exact hmatchedTemplates

namespace Registers

theorem contains_types (h : c.Registers r) (name : String) : r.types.contains name = c.types.contains name :=
  (h.types.isSome_lookup name).symm

theorem contains_templates (h : c.Registers r) (name : String) :
    r.templates.contains name = c.templates.contains name :=
  (h.templates.isSome_lookup name).symm

theorem checkUse_failsBy (h : c.Registers r) (owner : String) {entry : PolicyEntry} {u : PolicyUse}
    (hu : entry.use = .ok u) : (r.checkUse owner u).FailsBy (entry.Dangles c owner) := by
  unfold PolicyEntry.use at hu
  split at hu
  · cases hu
  · next template hform =>
      cases hu
      rw [Registry.checkUse, h.contains_templates]
      refine (Outcome.FailsBy.ite (fun _ => .ok _) fun _ => .error _).congr fun e => ?_
      simp [PolicyEntry.Dangles, hform]
  · next hform =>
      cases hu
      exact (Outcome.FailsBy.ok _).congr fun e => by simp [PolicyEntry.Dangles, hform]

theorem checkUses_failsBy (h : c.Registers r) (owner : String) {entries : List PolicyEntry} {uses : List PolicyUse}
    (huses : PolicyEntry.StandFor entries uses) :
    (uses.forM (r.checkUse owner)).FailsBy fun e => ∃ entry ∈ entries, entry.Dangles c owner e :=
  .forM huses fun _ _ => h.checkUse_failsBy owner

variable {name : String} {s : TypeSettings} {d : TypeDeclaration}

theorem checkSupertypes_failsBy (h : c.Registers r) (hd : s.Declares name d) :
    (r.checkSupertypes d).FailsBy fun e => ∃ super ∈ s.superclass.toList ++ s.interfaces,
      c.types.contains super = false ∧ e = .configuration (.unknownSupertype name super) := by
  have hsupertypes : d.supertypes = s.superclass.toList ++ s.interfaces := by
    rw [TypeDeclaration.supertypes, hd.superclass, hd.interfaces]
  rw [Registry.checkSupertypes, hsupertypes, hd.name_eq]
  refine .forM (List.forall₂_same.mpr fun _ _ => rfl) fun super _ heq => ?_
  subst heq
  rw [h.contains_types]
  refine (Outcome.FailsBy.ite (fun _ => .ok _) fun _ => .error _).congr fun e => ?_
  simp

theorem checkSuperclass_failsBy (h : c.Registers r) (hd : s.Declares name d) :
    (r.checkSuperclass d).FailsBy fun e => ∃ super, s.superclass = some super ∧
      (∃ t, c.types.get? super = some t ∧ t.kind = "interface") ∧
        e = .configuration (.interfaceAsSuperclass name super) := by
  rw [Registry.checkSuperclass, hd.superclass, hd.name_eq]
  cases hsuper : s.superclass with
  | none => exact (Outcome.FailsBy.ok _).congr (by simp)
  | some super =>
      have hinterface : (c.types.get? super).any (fun t => t.kind = "interface") =
          (r.types.get? super).any (fun t => t.kind = .interface) :=
        h.types.any_lookup super fun t d ht => by simp [ht.interface]
      simp only [← hinterface]
      refine (Outcome.FailsBy.ite (fun _ => .error _) fun _ => .ok _).congr fun e => ?_
      simp [Option.any_eq_true]

theorem checkType_failsBy (h : c.Registers r) (hd : s.Declares name d) :
    (r.checkType d).FailsBy (s.Flaw c name) := by
  refine ((h.checkSupertypes_failsBy hd).bind fun _ _ => (h.checkSuperclass_failsBy hd).bind fun _ _ =>
    h.checkUses_failsBy d.name hd.uses).congr fun e => ?_
  rw [hd.name_eq]
  constructor
  · rintro (⟨super, hsuper, hunknown, rfl⟩ | ⟨super, hsuper, ⟨t, ht, hkind⟩, rfl⟩ | ⟨entry, hentry, hdangles⟩)
    · exact .unknownSupertype hsuper hunknown
    · exact .interfaceAsSuperclass hsuper ht hkind
    · exact .dangling hentry hdangles
  · rintro (⟨hsuper, hunknown⟩ | ⟨hsuper, ht, hkind⟩ | ⟨hentry, hdangles⟩)
    · exact .inl ⟨_, hsuper, hunknown, rfl⟩
    · exact .inr (.inl ⟨_, hsuper, ⟨_, ht, hkind⟩, rfl⟩)
    · exact .inr (.inr ⟨_, hentry, hdangles⟩)

theorem validate_failsBy (h : c.Registers r) :
    r.validate.FailsBy fun e => (∃ t ∈ c.types.entries, t.2.Flaw c t.1 e) ∨
      ∃ t ∈ c.templates.entries, ∃ entry ∈ t.2, entry.Dangles c t.1 e :=
  Outcome.FailsBy.bind (.forM h.types fun _ _ hd => h.checkType_failsBy hd.2) fun _ _ =>
    .forM h.templates fun _ _ ⟨_, hname, huses⟩ => hname ▸ h.checkUses_failsBy _ huses

end Registers

theorem Valid.registry_failsBy (h : c.Valid) : c.registry.FailsBy c.ReferenceFlaw := by
  have htemplates : (c.templates.entries.mapM fun t => do
      return (PolicyTemplate.mk t.1 (← t.2.mapM PolicyEntry.use)) : Outcome _).FailsBy fun _ => False := by
    refine .of_eq_ok (Outcome.exists_mapM_eq_ok.mpr fun t ht => ?_)
    obtain ⟨uses, huses⟩ := PolicyEntry.exists_uses (h.templates t ht)
    exact ⟨⟨t.1, uses⟩, by rw [huses]; rfl⟩
  have htypes : (c.types.entries.mapM fun t => t.2.declaration t.1 : Outcome _).FailsBy _ :=
    .mapM fun t ht => (h.types t ht).declaration_failsBy t.1
  refine (htemplates.bind fun templates hbuilt => htypes.bind fun types hdeclared =>
    (registers_of_built hbuilt hdeclared).validate_failsBy.bind fun _ _ => .ok _).congr fun e => ⟨?_, ?_⟩
  · rintro (hnone | ⟨t, ht, hkind, hsuper, rfl⟩ | (⟨t, ht, hflaw⟩ | ⟨t, ht, entry, hentry, hdangles⟩) | hnone)
    · exact hnone.elim
    · exact .interfaceSuperclass ht hkind hsuper
    · exact .type ht hflaw
    · exact .template ht hentry hdangles
    · exact hnone.elim
  · rintro (⟨hs, hkind, hsuper⟩ | ⟨hs, hflaw⟩ | ⟨ht, hentry, hdangles⟩)
    · exact .inr (.inl ⟨_, hs, hkind, hsuper, rfl⟩)
    · exact .inr (.inr (.inl (.inl ⟨_, hs, hflaw⟩)))
    · exact .inr (.inr (.inl (.inr ⟨_, ht, _, hentry, hdangles⟩)))

end Config

end References

section Sessions

variable {s : SessionSettings}

/-- Steps that stand in their order are built one for each name. -/
theorem SessionSettings.stepsFrom_of_checkChain {start : Nat} {names : List String}
    (h : checkChain start names = .ok ()) :
    s.stepsFrom start names = .ok (names.map fun name => s.stepAt (sessionStepNames.idxOf name)) := by
  induction names generalizing start with
  | nil => rfl
  | cons name rest ih =>
      rw [checkChain] at h
      simp only [Checked.andThen_eq_ok, ensure_eq_ok, decide_eq_true_eq] at h
      obtain ⟨hknown, horder, hrest⟩ := h
      rw [stepsFrom, if_neg (Nat.not_le.mpr hknown), if_neg (Nat.not_lt.mpr horder), ih hrest]
      rfl

/-- The step at the position of a name is called by the name. -/
theorem SessionSettings.name_stepAt {name : String} (h : name ∈ sessionStepNames) :
    (s.stepAt (sessionStepNames.idxOf name)).name = name := by
  simp only [sessionStepNames, List.mem_cons, List.not_mem_nil, or_false] at h
  rcases h with rfl | rfl | rfl <;> rfl

theorem SessionStep.names_eq_map (steps : List SessionStep) : names steps = steps.map name := by
  induction steps with
  | nil => rfl
  | cons step rest ih => rw [names, ih, List.map_cons]

theorem SessionSettings.Valid.sessionChain_eq (h : s.Valid) (hchain : s.chain ≠ []) :
    ∃ chain, s.sessionChain = .ok chain ∧ chain.names = s.chain ∧
      chain.steps = s.chain.map fun name => s.stepAt (sessionStepNames.idxOf name) := by
  let steps := s.chain.map fun name => s.stepAt (sessionStepNames.idxOf name)
  have hsteps : s.stepsFrom 0 s.chain = .ok steps := stepsFrom_of_checkChain (validate_eq_ok.mpr h)
  have hsome : ¬ steps.isEmpty = true := by simpa [steps] using hchain
  refine ⟨⟨steps⟩, ?_, ?_, rfl⟩
  · rw [sessionChain, hsteps]
    exact if_neg hsome
  · rw [SessionChain.names, SessionStep.names_eq_map, List.map_map]
    exact (List.map_congr_left fun name hname => name_stepAt (h.known name hname)).trans (List.map_id _)

end Sessions

/-- A configured abstain policy is one of the two that there are. -/
theorem EngineSettings.abstainPolicy_eq {s : EngineSettings} (h : s.onAbstain = "deny" ∨ s.onAbstain = "grant") :
    s.abstainPolicy = .ok (if s.onAbstain = "grant" then .grant else .deny) := by
  unfold abstainPolicy
  rcases h with h | h <;> rw [h] <;> rfl

/-- From a valid configuration the abstain policy is always built. Building the guard fails exactly if a route has a
flaw in its pattern or its expression or there are no routes, whatever the engine has compiled before; building the
registry fails exactly if a reference leads nowhere or stands where it may not; and a failure is one of these flaws. The
chain of a session fails exactly if it is empty, and has the named steps in their order otherwise. -/
theorem valid_config_builds (c : Config) (h : c.validate = .ok ()) (sources : List String) :
    let guard := (c.requestGuard.run (c.engine.newEngine.after sources)).1
    c.engine.abstainPolicy = .ok (if c.engine.onAbstain = "grant" then .grant else .deny) ∧
      (∀ e, guard = .error e → c.RouteFlaw e) ∧ ((∃ g, guard = .ok g) ↔ ∀ e, ¬ c.RouteFlaw e) ∧
      (∀ e, c.registry = .error e → c.ReferenceFlaw e) ∧ ((∃ r, c.registry = .ok r) ↔ ∀ e, ¬ c.ReferenceFlaw e) ∧
      (c.sessions.chain = [] → c.sessions.sessionChain = .error .emptyChain) ∧
      (c.sessions.chain ≠ [] → ∃ chain, c.sessions.sessionChain = .ok chain ∧ chain.names = c.sessions.chain ∧
        chain.steps = c.sessions.chain.map fun name => c.sessions.stepAt (sessionStepNames.idxOf name)) := by
  intro guard
  have hvalid := Config.validate_eq_ok.mp h
  have hengine := (Expr.Engine.sound_new c.engine.maxExpressionLength).after sources
  have hguard : Outcome.FailsBy guard c.RouteFlaw := by
    rw [show guard = c.guardFor c.engine.maxExpressionLength from (c.requestGuard_yields _ hengine).1]
    exact hvalid.guardFor_failsBy
  have hregistry := hvalid.registry_failsBy
  refine ⟨EngineSettings.abstainPolicy_eq hvalid.onAbstain, hguard.is_flaw, hguard.exists_ok_iff, hregistry.is_flaw,
    hregistry.exists_ok_iff, fun hempty => ?_, hvalid.sessions.sessionChain_eq⟩
  rw [SessionSettings.sessionChain, hempty]
  rfl

/-- A valid configuration with a relative pattern and an interface that has a superclass. -/
theorem valid_config_builds_of_flaws :
    let c : Config :=
      { routes := [{ pattern := "reports/**", method := some "get", access := some "permit_all" }],
        types := .ofList [("Store", { kind := "interface", superclass := some "Base" })],
        sessions := { chain := ["fixation", "register"] } }
    c.validate = .ok () ∧ (¬ ∃ g, (c.requestGuard.run (c.engine.newEngine.after ["true"])).1 = .ok g) ∧
      (¬ ∃ r, c.registry = .ok r) ∧
      ∃ chain, c.sessions.sessionChain = .ok chain ∧ chain.names = ["fixation", "register"] := by
  intro c
  have hvalid : c.validate = .ok () := by decide +kernel
  obtain ⟨-, -, hguard, -, hregistry, -, hchain⟩ := valid_config_builds c hvalid ["true"]
  obtain ⟨chain, hbuilt, hnames, -⟩ := hchain (by decide)
  refine ⟨hvalid, ?_, ?_, chain, hbuilt, hnames⟩
  · rw [hguard]
    exact fun hnone => hnone _ (.pattern List.mem_cons_self (.relative (by decide)))
  · rw [hregistry]
    have hstore : ("Store", { kind := "interface", superclass := some "Base" }) ∈ c.types.entries := List.mem_cons_self
    exact fun hnone => hnone _ (.interfaceSuperclass hstore rfl rfl)

end AccessControl
