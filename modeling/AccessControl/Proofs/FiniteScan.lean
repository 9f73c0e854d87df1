import AccessControl.Proofs.CompetingPolicies
import Mathlib.Data.List.Perm.Subperm

/-!
# Scans come to an end

A scan follows references that can lead in a circle: from a type to its supertypes, and from a template to the templates
that it uses. The rules of this module say what a scan does one thing after another, and nothing in them makes it stop.
The main statement says that every scan has a run by the rules, and that the run gives what the scan gives. In each of
its two phases the run comes to a type at most once, and the templates that are being expanded are different ones, so
that there are never more of them than templates that are registered.

## Implementation notes

A run is an inductive relation and so finite; it carries the events in their order. The rules follow the recursion: what
is above a type is searched before the types that are listed behind it, with all the types that were visited up to there,
while `Registry.closest` keeps the types that are left in one list. The two meet in `closest_append`. That there is a run
goes by two measures, the templates that are not in the stack with the uses that are left, and the registered types that
were not visited with the types that are left.
-/
namespace AccessControl

open Outcome

/-- What happens during a search. -/
inductive SearchEvent where
  /-- The search comes to a type to which it has not come before. -/
  | visits (name : String)
  /-- A template is entered, which is then the last one of the stack. -/
  | enters (stack : List String)

/-- The types to which a search comes. -/
def SearchEvent.visited : List SearchEvent → List String
  | [] => []
  | .visits name :: rest => name :: visited rest
  | .enters _ :: rest => visited rest

namespace SearchEvent

@[simp] theorem visited_append (events events' : List SearchEvent) :
    visited (events ++ events') = visited events ++ visited events' := by
  induction events with
  | nil => rfl
  | cons event rest ih =>
      cases event with
      | visits name => exact congrArg (name :: ·) ih
      | enters stack => exact ih

@[simp] theorem visited_map_enters (entered : List (List String)) : visited (entered.map enters) = [] := by
  induction entered with
  | nil => rfl
  | cons stack rest ih => exact ih

end SearchEvent

namespace Registry

section Expansions

variable (r : Registry) (kind : PolicyKind)

/-- A run of the expansion of some uses inside the templates of a stack, with the stacks that templates are entered
with. -/
inductive ExpandRun :
    Dict String → List String → List PolicyUse → Outcome (List Policy) → List (List String) → Prop
  | nil {arguments stack} : ExpandRun arguments stack [] (.ok []) []
  | policy {arguments stack rest o entered} {p q : Policy} (hkind : p.kind = kind) (hfill : p.fill arguments = .ok q)
      (hrest : ExpandRun arguments stack rest o entered) :
      ExpandRun arguments stack (.direct p :: rest) (o.map (q :: ·)) entered
  | flawed {arguments stack rest e} {p : Policy} (hkind : p.kind = kind) (hfill : p.fill arguments = .error e) :
      ExpandRun arguments stack (.direct p :: rest) (.error e) []
  | other {arguments stack rest o entered} {p : Policy} (hkind : p.kind ≠ kind)
      (hrest : ExpandRun arguments stack rest o entered) : ExpandRun arguments stack (.direct p :: rest) o entered
  | circle {arguments values stack name rest} (hstack : name ∈ stack) :
      ExpandRun arguments stack (.template name values :: rest) (misconfigured (.compositionCycle stack name)) []
  | unknown {arguments values stack name rest} (hstack : name ∉ stack) (hnone : r.templates.get? name = none) :
      ExpandRun arguments stack (.template name values :: rest) (misconfigured (.unknownComposition name)) []
  | value {arguments values stack name rest t e} (hstack : name ∉ stack) (ht : r.templates.get? name = some t)
      (hvalues : fillValues arguments values = .error e) :
      ExpandRun arguments stack (.template name values :: rest) (.error e) []
  | inside {arguments values inner stack name rest e entered} {t : PolicyTemplate} (hstack : name ∉ stack)
      (ht : r.templates.get? name = some t) (hvalues : fillValues arguments values = .ok inner)
      (hinner : ExpandRun inner (stack ++ [name]) t.uses (.error e) entered) :
      ExpandRun arguments stack (.template name values :: rest) (.error e) ((stack ++ [name]) :: entered)
  | template {arguments values inner stack name rest found o entered entered'} {t : PolicyTemplate}
      (hstack : name ∉ stack) (ht : r.templates.get? name = some t) (hvalues : fillValues arguments values = .ok inner)
      (hinner : ExpandRun inner (stack ++ [name]) t.uses (.ok found) entered)
      (hrest : ExpandRun arguments stack rest o entered') :
      ExpandRun arguments stack (.template name values :: rest) (o.map (found ++ ·))
        ((stack ++ [name]) :: (entered ++ entered'))

/-- A stack of different templates, all of which are registered. -/
structure SoundStack (stack : List String) : Prop where
  nodup : stack.Nodup
  registered : ∀ name ∈ stack, r.templates.contains name = true

variable {r kind} {arguments : Dict String} {stack : List String} {name : String} {t : PolicyTemplate}
  {uses : List PolicyUse} {o o' : Outcome (List Policy)} {entered entered' : List (List String)}

/-- A run of an expansion is determined. -/
theorem ExpandRun.unique (h : r.ExpandRun kind arguments stack uses o entered)
    (h' : r.ExpandRun kind arguments stack uses o' entered') : o = o' ∧ entered = entered' := by
  induction h generalizing o' entered' with
  | nil =>
      cases h'
      exact ⟨rfl, rfl⟩
  | policy | flawed | other | circle | unknown | value | inside | template =>
      -- Two rules for the same first use ask for opposite facts about it.
      cases h' <;> grind

/-- A run gives what the expansion gives. -/
theorem ExpandRun.eq_expand (h : r.ExpandRun kind arguments stack uses o entered) :
    o = r.expand kind arguments stack uses := by
  induction h with
  | nil => rw [expand]
  | policy hkind hfill _ ih =>
      rw [expand, if_pos hkind, hfill, ← ih]
      next o _ _ _ _ => cases o <;> rfl
  | flawed hkind hfill =>
      rw [expand, if_pos hkind, hfill]
      rfl
  | other hkind _ ih =>
      rw [expand, if_neg hkind, ← ih]
      next o _ _ _ => cases o <;> rfl
  | circle hstack => rw [expand, dif_pos hstack]
  | unknown hstack hnone => rw [expand_template hstack, hnone]
  | value hstack ht hvalues =>
      rw [expand_template hstack, ht]
      simp only [hvalues, error_bind]
  | inside hstack ht hvalues _ ih =>
      rw [expand_template hstack, ht]
      simp only [hvalues, ok_bind, ← ih, error_bind]
  | template hstack ht hvalues _ _ ih ih' =>
      rw [expand_template hstack, ht]
      simp only [hvalues, ok_bind, ← ih, ← ih']
      next o _ _ _ _ _ => cases o <;> rfl

/-- Every expansion has a run: a template that is entered was not in the stack, and otherwise fewer uses are left. -/
theorem exists_expandRun (r : Registry) (kind : PolicyKind) (arguments : Dict String) (stack : List String)
    (uses : List PolicyUse) : ∃ o entered, r.ExpandRun kind arguments stack uses o entered := by
  match uses with
  | [] => exact ⟨_, _, .nil⟩
  | .direct p :: rest =>
      obtain ⟨o, entered, hrest⟩ := exists_expandRun r kind arguments stack rest
      by_cases hkind : p.kind = kind
      · cases hfill : p.fill arguments with
        | error e => exact ⟨_, _, .flawed hkind hfill⟩
        | ok q => exact ⟨_, _, .policy hkind hfill hrest⟩
      · exact ⟨_, _, .other hkind hrest⟩
  | .template name values :: rest =>
      by_cases hstack : name ∈ stack
      · exact ⟨_, _, .circle hstack⟩
      · cases ht : r.templates.get? name with
        | none => exact ⟨_, _, .unknown hstack ht⟩
        | some t =>
            cases hvalues : fillValues arguments values with
            | error e => exact ⟨_, _, .value hstack ht hvalues⟩
            | ok inner =>
                obtain ⟨o, entered, hinner⟩ := exists_expandRun r kind inner (stack ++ [name]) t.uses
                cases o with
                | error e => exact ⟨_, _, .inside hstack ht hvalues hinner⟩
                | ok found =>
                    obtain ⟨o, entered', hrest⟩ := exists_expandRun r kind arguments stack rest
                    exact ⟨_, _, .template hstack ht hvalues hinner hrest⟩
termination_by (unseen r.templates.keys stack, uses.length)
decreasing_by
  · exact Prod.Lex.right _ (Nat.lt_succ_self _)
  · exact Prod.Lex.left _ _ (unseen_keys_lt ht hstack (by simp) (by simp +contextual))
  · exact Prod.Lex.right _ (Nat.lt_succ_self _)

theorem SoundStack.push (h : r.SoundStack stack) (hstack : name ∉ stack) (ht : r.templates.get? name = some t) :
    r.SoundStack (stack ++ [name]) where
  nodup := by
    rw [← List.concat_eq_append, List.nodup_concat]
    exact ⟨hstack, h.nodup⟩
  registered := by
    rw [List.forall_mem_append, List.forall_mem_singleton, Dict.contains, ht]
    exact ⟨h.registered, rfl⟩

theorem SoundStack.length_le (h : r.SoundStack stack) : stack.length ≤ r.templates.size := by
  have hsubset : stack ⊆ r.templates.keys := fun name hname => Dict.mem_keys.mpr (h.registered name hname)
  calc
    stack.length ≤ r.templates.keys.length := (List.Nodup.subperm h.nodup hsubset).length_le
    _ = r.templates.size := List.length_map _

/-- A template is entered only where the stack stays one of different registered templates. -/
theorem ExpandRun.soundStack (h : r.ExpandRun kind arguments stack uses o entered) (hstack : r.SoundStack stack) :
    ∀ inner ∈ entered, r.SoundStack inner := by
  induction h with
  | nil | flawed | circle | unknown | value => exact List.forall_mem_nil _
  | policy _ _ _ ih | other _ _ ih => exact ih hstack
  | inside hname ht _ _ ih =>
      have hpush := hstack.push hname ht
      exact List.forall_mem_cons.mpr ⟨hpush, ih hpush⟩
  | template hname ht _ _ _ ih ih' =>
      have hpush := hstack.push hname ht
      rw [List.forall_mem_cons, List.forall_mem_append]
      exact ⟨hpush, ih hpush, ih' hstack⟩

end Expansions

section Climbs

open SearchEvent

variable (r : Registry) (kind : PolicyKind) (usesOf : TypeDeclaration → List PolicyUse)

/-- A run of the expansion of what stands on a type itself. -/
inductive OwnRun (name : String) : Outcome (List Policy) → List (List String) → Prop
  | unregistered (hnone : r.types.get? name = none) : OwnRun name (.ok []) []
  | registered {o entered} {d : TypeDeclaration} (hd : r.types.get? name = some d)
      (hexpand : r.ExpandRun kind ∅ [] (usesOf d) o entered) : OwnRun name o entered

/-- A run of a search on the ways up from some types, one after another, where some types have been visited before. -/
inductive ClimbRun : List String → List String → Outcome (List Policy × List String) → List SearchEvent → Prop
  | nil {visited} : ClimbRun visited [] (.ok ([], visited)) []
  | again {visited name rest o events} (hname : name ∈ visited) (hrest : ClimbRun visited rest o events) :
      ClimbRun visited (name :: rest) o events
  | fails {visited name rest e entered} (hname : name ∉ visited) (hown : r.OwnRun kind usesOf name (.error e) entered) :
      ClimbRun visited (name :: rest) (.error e) (.visits name :: entered.map .enters)
  | found {visited name rest p policies entered o events} (hname : name ∉ visited)
      (hown : r.OwnRun kind usesOf name (.ok (p :: policies)) entered)
      (hrest : ClimbRun (name :: visited) rest o events) :
      ClimbRun visited (name :: rest) (o.map fun walked => (p :: policies ++ walked.1, walked.2))
        (.visits name :: (entered.map .enters ++ events))
  | aboveFails {visited name rest entered e events} (hname : name ∉ visited)
      (hown : r.OwnRun kind usesOf name (.ok []) entered)
      (habove : ClimbRun (name :: visited) (r.supertypesOf name) (.error e) events) :
      ClimbRun visited (name :: rest) (.error e) (.visits name :: (entered.map .enters ++ events))
  | above {visited visited' name rest entered found o events events'} (hname : name ∉ visited)
      (hown : r.OwnRun kind usesOf name (.ok []) entered)
      (habove : ClimbRun (name :: visited) (r.supertypesOf name) (.ok (found, visited')) events)
      (hrest : ClimbRun visited' rest o events') :
      ClimbRun visited (name :: rest) (o.map fun walked => (found ++ walked.1, walked.2))
        (.visits name :: (entered.map .enters ++ events ++ events'))

variable {r kind usesOf} {visited visited' types : List String} {name : String} {found : List Policy}
  {own own' : Outcome (List Policy)} {o o' : Outcome (List Policy × List String)} {entered entered' : List (List String)}
  {events events' : List SearchEvent}

theorem OwnRun.unique (h : r.OwnRun kind usesOf name own entered) (h' : r.OwnRun kind usesOf name own' entered') :
    own = own' ∧ entered = entered' := by
  cases h with
  | unregistered hnone =>
      cases h' with
      | unregistered => exact ⟨rfl, rfl⟩
      | registered hd => cases hnone.symm.trans hd
  | registered hd hexpand =>
      cases h' with
      | unregistered hnone => cases hnone.symm.trans hd
      | registered hd' hexpand' =>
          cases hd.symm.trans hd'
          exact hexpand.unique hexpand'

theorem OwnRun.eq_own (h : r.OwnRun kind usesOf name own entered) : own = r.own kind usesOf name := by
  cases h with
  | unregistered hnone => rw [Registry.own, hnone]
  | registered hd hexpand =>
      rw [Registry.own, hd]
      exact hexpand.eq_expand

theorem exists_ownRun (r : Registry) (kind : PolicyKind) (usesOf : TypeDeclaration → List PolicyUse) (name : String) :
    ∃ own entered, r.OwnRun kind usesOf name own entered := by
  cases hd : r.types.get? name with
  | none => exact ⟨_, _, .unregistered hd⟩
  | some d =>
      obtain ⟨own, entered, hexpand⟩ := exists_expandRun r kind ∅ [] (usesOf d)
      exact ⟨own, entered, .registered hd hexpand⟩

theorem OwnRun.soundStack (h : r.OwnRun kind usesOf name own entered) :
    ∀ event ∈ entered.map enters, ∀ stack, event = enters stack → r.SoundStack stack := by
  rw [List.forall_mem_map]
  rintro stack hstack _ ⟨⟩
  cases h with
  | unregistered => cases hstack
  | registered hd hexpand => exact hexpand.soundStack ⟨List.nodup_nil, List.forall_mem_nil _⟩ stack hstack

/-- A search of one type on which nothing stands goes on above it. -/
theorem ClimbRun.pass (hname : name ∉ visited) (hown : r.OwnRun kind usesOf name (.ok []) [])
    (habove : r.ClimbRun kind usesOf (name :: visited) (r.supertypesOf name) (.ok ([], visited')) events) :
    r.ClimbRun kind usesOf visited [name] (.ok ([], visited')) (.visits name :: events) := by
  have hrun := ClimbRun.above hname hown habove .nil
  rwa [List.append_nil] at hrun

/-- A search of one type ends there if nothing stands on the type and nothing is above it. -/
theorem ClimbRun.top (hname : name ∉ visited) (hown : r.OwnRun kind usesOf name (.ok []) [])
    (habove : r.supertypesOf name = []) :
    r.ClimbRun kind usesOf visited [name] (.ok ([], name :: visited)) [.visits name] := by
  refine .pass hname hown ?_
  rw [habove]
  exact .nil

theorem ClimbRun.unregistered (hname : name ∉ visited) (hnone : r.types.get? name = none) :
    r.ClimbRun kind usesOf visited [name] (.ok ([], name :: visited)) [.visits name] := by
  refine .top hname (.unregistered hnone) ?_
  rw [supertypesOf, hnone]
  rfl

/-- A run of a search is determined. -/
theorem ClimbRun.unique (h : r.ClimbRun kind usesOf visited types o events)
    (h' : r.ClimbRun kind usesOf visited types o' events') : o = o' ∧ events = events' := by
  induction h generalizing o' events' with
  | nil =>
      cases h'
      exact ⟨rfl, rfl⟩
  | again | fails | found | aboveFails | above => cases h' <;> grind [OwnRun.unique]

/-- A search visits some types and then, with these as visited, the others. -/
theorem closest_append (visited types rest : List String) :
    r.closest kind usesOf visited (types ++ rest) = (do
      let (found, visited) ← r.closest kind usesOf visited types
      let (others, visited) ← r.closest kind usesOf visited rest
      .ok (found ++ others, visited)) := by
  induction visited, types using closest_induction r with
  | nil visited =>
      have hnil : r.closest kind usesOf visited [] = .ok ([], visited) := by rw [closest]
      rw [hnil, List.nil_append]
      simp only [ok_bind, List.nil_append]
      cases hrest : r.closest kind usesOf visited rest with
      | error e => rfl
      | ok walked => rfl
  | skip visited name types hname ih =>
      rw [List.cons_append, closest, dif_pos hname, ih, closest, dif_pos hname]
  | visit visited name types hname ihabove ihtypes =>
      rw [List.cons_append, closest_cons hname, closest_cons hname]
      cases hown : r.own kind usesOf name with
      | error e => rfl
      | ok policies =>
          cases policies with
          | nil =>
              rw [← List.append_assoc]
              exact ihabove
          | cons p policies =>
              simp only [ok_bind, List.isEmpty_cons, Bool.false_eq_true, if_false, ihtypes]
              cases htypes : r.closest kind usesOf (name :: visited) types with
              | error e => rfl
              | ok walked =>
                  obtain ⟨found, visited'⟩ := walked
                  simp only [ok_bind]
                  cases hrest : r.closest kind usesOf visited' rest with
                  | error e => rfl
                  | ok walked' => simp only [ok_bind, List.append_assoc, List.cons_append]

/-- A run gives what the search gives. -/
theorem ClimbRun.eq_closest (h : r.ClimbRun kind usesOf visited types o events) :
    o = r.closest kind usesOf visited types := by
  induction h with
  | nil => rw [closest]
  | again hname _ ih => rw [closest, dif_pos hname, ih]
  | fails hname hown => rw [closest_cons hname, ← hown.eq_own, error_bind]
  | found hname hown _ ih =>
      rw [closest_cons hname, ← hown.eq_own]
      simp only [ok_bind, List.isEmpty_cons, Bool.false_eq_true, if_false, ← ih]
      next o _ _ _ => cases o <;> rfl
  | aboveFails hname hown _ ih =>
      rw [closest_cons hname, ← hown.eq_own]
      simp only [ok_bind, List.isEmpty_nil, if_true, closest_append, ← ih, error_bind]
  | above hname hown _ _ ih ih' =>
      rw [closest_cons hname, ← hown.eq_own]
      simp only [ok_bind, List.isEmpty_nil, if_true, closest_append, ← ih, ← ih']
      next o _ _ _ _ => cases o <;> rfl

/-- A successful run puts the types that it visits in front of those that were visited before it. -/
theorem ClimbRun.visited_eq (h : r.ClimbRun kind usesOf visited types o events)
    (ho : o = .ok (found, visited')) : visited' = (SearchEvent.visited events).reverse ++ visited := by
  induction h generalizing found visited' with
  | nil =>
      cases ho
      rfl
  | again _ _ ih => exact ih ho
  | fails | aboveFails => cases ho
  | found _ _ _ ih =>
      obtain ⟨walked, hwalked, hpair⟩ := map_eq_ok.mp ho
      cases hpair
      simpa [SearchEvent.visited] using ih hwalked
  | above _ _ _ _ ih ih' =>
      obtain ⟨walked, hwalked, hpair⟩ := map_eq_ok.mp ho
      cases hpair
      simpa [SearchEvent.visited, ih rfl] using ih' hwalked

/-- A run visits a type at most once, and no type that was visited before it. -/
theorem ClimbRun.nodup_visited (h : r.ClimbRun kind usesOf visited types o events) (hvisited : visited.Nodup) :
    ((SearchEvent.visited events).reverse ++ visited).Nodup := by
  induction h with
  | nil => exact hvisited
  | again _ _ ih => exact ih hvisited
  | fails hname => simpa [SearchEvent.visited] using ⟨hname, hvisited⟩
  | found hname _ _ ih => simpa [SearchEvent.visited] using ih (List.nodup_cons.mpr ⟨hname, hvisited⟩)
  | aboveFails hname _ _ ih => simpa [SearchEvent.visited] using ih (List.nodup_cons.mpr ⟨hname, hvisited⟩)
  | above hname _ habove _ ih ih' =>
      have hmore := ih (List.nodup_cons.mpr ⟨hname, hvisited⟩)
      rw [← habove.visited_eq rfl] at hmore
      simpa [SearchEvent.visited, habove.visited_eq rfl] using ih' hmore

/-- Every search has a run: above a type that was not visited fewer registered types are unvisited, and otherwise fewer
types are left. -/
theorem exists_climbRun (r : Registry) (kind : PolicyKind) (usesOf : TypeDeclaration → List PolicyUse)
    (visited types : List String) : ∃ o events, r.ClimbRun kind usesOf visited types o events := by
  match types with
  | [] => exact ⟨_, _, .nil⟩
  | name :: rest =>
      by_cases hname : name ∈ visited
      · obtain ⟨o, events, hrest⟩ := exists_climbRun r kind usesOf visited rest
        exact ⟨_, _, .again hname hrest⟩
      · have hmore : ∀ x ∈ visited, x ∈ name :: visited := fun x => List.mem_cons_of_mem name
        obtain ⟨own, entered, hown⟩ := exists_ownRun r kind usesOf name
        cases own with
        | error e => exact ⟨_, _, .fails hname hown⟩
        | ok policies =>
            cases policies with
            | cons p policies =>
                obtain ⟨o, events, hrest⟩ := exists_climbRun r kind usesOf (name :: visited) rest
                exact ⟨_, _, .found hname hown hrest⟩
            | nil =>
                obtain ⟨o, events, habove⟩ : ∃ o events,
                    r.ClimbRun kind usesOf (name :: visited) (r.supertypesOf name) o events := by
                  cases hd : r.types.get? name with
                  | none =>
                      rw [supertypesOf, hd]
                      exact ⟨_, _, .nil⟩
                  | some d => exact exists_climbRun r kind usesOf (name :: visited) (r.supertypesOf name)
                cases o with
                | error e => exact ⟨_, _, .aboveFails hname hown habove⟩
                | ok walked =>
                    obtain ⟨found, visited'⟩ := walked
                    have hgrows : ∀ x ∈ visited, x ∈ visited' := by
                      rw [habove.visited_eq rfl]
                      exact fun x hx => List.mem_append_right _ (hmore x hx)
                    obtain ⟨o, events', hrest⟩ := exists_climbRun r kind usesOf visited' rest
                    exact ⟨_, _, .above hname hown habove hrest⟩
termination_by (unseen r.types.keys visited, types.length)
decreasing_by
  · exact Prod.Lex.right _ (Nat.lt_succ_self _)
  · exact Prod.Lex.left _ _ (unseen_keys_lt hd hname List.mem_cons_self hmore)
  · exact Prod.Lex.right' _ (unseen_le hgrows _) (Nat.lt_succ_self _)
  · exact Prod.Lex.right' _ (unseen_le hmore _) (Nat.lt_succ_self _)

/-- A search enters templates only where the stack is one of different registered templates. -/
theorem ClimbRun.soundStack (h : r.ClimbRun kind usesOf visited types o events) :
    ∀ event ∈ events, ∀ stack, event = .enters stack → r.SoundStack stack := by
  induction h with
  | nil => exact List.forall_mem_nil _
  | again _ _ ih => exact ih
  | fails _ hown => exact List.forall_mem_cons.mpr ⟨nofun, hown.soundStack⟩
  | found _ hown _ ih | aboveFails _ hown _ ih =>
      rw [List.forall_mem_cons, List.forall_mem_append]
      exact ⟨nofun, hown.soundStack, ih⟩
  | above _ hown _ _ ih ih' =>
      rw [List.forall_mem_cons, List.forall_mem_append, List.forall_mem_append]
      exact ⟨nofun, ⟨hown.soundStack, ih⟩, ih'⟩

end Climbs

section Scans

variable (r : Registry) (kind : PolicyKind)

/-- A run of a phase of a scan: a search from a type, which goes on from the declaring type if it has found nothing and
has not come there. -/
inductive PhaseRun (usesOf : TypeDeclaration → List PolicyUse) (start declaring : String) :
    Outcome (List Policy) → List SearchEvent → Prop
  | fails {e events} (hclimb : r.ClimbRun kind usesOf [] [start] (.error e) events) :
      PhaseRun usesOf start declaring (.error e) events
  | ends {found visited events} (hclimb : r.ClimbRun kind usesOf [] [start] (.ok (found, visited)) events)
      (hends : found ≠ [] ∨ declaring ∈ visited) : PhaseRun usesOf start declaring (.ok found) events
  | goesOn {visited o events events'} (hclimb : r.ClimbRun kind usesOf [] [start] (.ok ([], visited)) events)
      (hnew : declaring ∉ visited) (hagain : r.ClimbRun kind usesOf visited [declaring] o events') :
      PhaseRun usesOf start declaring (o.map Prod.fst) (events ++ events')

/-- A run of a scan, with the events of the phase for policies on methods and of the phase for policies on types. -/
inductive ScanRun (m : MethodRef) (target : String) :
    Outcome (Option Policy) → List SearchEvent → List SearchEvent → Prop
  | fails {e events}
      (hmethods : r.PhaseRun kind (TypeDeclaration.usesOn m.name) (r.startOf m target) m.declaringType
        (.error e) events) :
      ScanRun m target (.error e) events []
  | methods {p policies events}
      (hmethods : r.PhaseRun kind (TypeDeclaration.usesOn m.name) (r.startOf m target) m.declaringType
        (.ok (p :: policies)) events) :
      ScanRun m target (unique (r.startOf m target ++ "." ++ m.name) (p :: policies)) events []
  | types {o events events'}
      (hmethods : r.PhaseRun kind (TypeDeclaration.usesOn m.name) (r.startOf m target) m.declaringType (.ok []) events)
      (htypes : r.PhaseRun kind TypeDeclaration.uses (r.startOf m target) m.declaringType o events') :
      ScanRun m target (o >>= unique (r.startOf m target)) events events'

variable {r kind} {usesOf : TypeDeclaration → List PolicyUse} {start declaring : String} {m : MethodRef}
  {target : String} {found found' : Outcome (List Policy)} {o o' : Outcome (Option Policy)}
  {events events' onMethods onMethods' onTypes onTypes' : List SearchEvent}

/-- A phase ends at the type from which it starts if something stands there. -/
theorem PhaseRun.first {p : Policy} {policies : List Policy} {entered : List (List String)}
    (hown : r.OwnRun kind usesOf start (.ok (p :: policies)) entered) :
    r.PhaseRun kind usesOf start declaring (.ok (p :: policies)) (.visits start :: entered.map .enters) := by
  have hclimb := ClimbRun.found List.not_mem_nil hown .nil
  simp only [Except.map, List.append_nil] at hclimb
  exact .ends hclimb (.inl (List.cons_ne_nil p policies))

theorem PhaseRun.unique (h : r.PhaseRun kind usesOf start declaring found events)
    (h' : r.PhaseRun kind usesOf start declaring found' events') : found = found' ∧ events = events' := by
  cases h <;> cases h' <;> grind [ClimbRun.unique]

theorem PhaseRun.eq_closestFrom (h : r.PhaseRun kind usesOf start declaring found events) :
    found = r.closestFrom kind usesOf start declaring := by
  cases h with
  | fails hclimb => rw [closestFrom, ← hclimb.eq_closest, error_bind]
  | @ends found visited _ hclimb hends =>
      have hstops : ¬ (found.isEmpty && !visited.contains declaring) = true := by
        simpa [← imp_iff_not_or] using hends
      rw [closestFrom, ← hclimb.eq_closest]
      exact (if_neg hstops).symm
  | @goesOn visited o _ _ hclimb hnew hagain =>
      have hstarts : (([] : List Policy).isEmpty && !visited.contains declaring) = true := by simpa using hnew
      rw [closestFrom, ← hclimb.eq_closest, ok_bind]
      simp only [if_pos hstarts, ← hagain.eq_closest]
      cases o <;> rfl

theorem exists_phaseRun (r : Registry) (kind : PolicyKind) (usesOf : TypeDeclaration → List PolicyUse)
    (start declaring : String) : ∃ found events, r.PhaseRun kind usesOf start declaring found events := by
  obtain ⟨o, events, hclimb⟩ := exists_climbRun r kind usesOf [] [start]
  match o with
  | .error e => exact ⟨_, _, .fails hclimb⟩
  | .ok (found, visited) =>
      by_cases hends : found ≠ [] ∨ declaring ∈ visited
      · exact ⟨_, _, .ends hclimb hends⟩
      · obtain ⟨hnone, hnew⟩ := not_or.mp hends
        obtain ⟨o, events', hagain⟩ := exists_climbRun r kind usesOf visited [declaring]
        rw [not_not.mp hnone] at hclimb
        exact ⟨_, _, .goesOn hclimb hnew hagain⟩

/-- A phase visits a type at most once, also where it goes on from the declaring type. -/
theorem PhaseRun.nodup_visited (h : r.PhaseRun kind usesOf start declaring found events) :
    (SearchEvent.visited events).Nodup := by
  cases h with
  | fails hclimb | ends hclimb => simpa using hclimb.nodup_visited List.nodup_nil
  | goesOn hclimb _ hagain =>
      have hvisited := hclimb.nodup_visited List.nodup_nil
      rw [← hclimb.visited_eq rfl] at hvisited
      have hmore := hagain.nodup_visited hvisited
      rw [hclimb.visited_eq rfl, List.append_nil, ← List.reverse_append, List.nodup_reverse] at hmore
      rwa [SearchEvent.visited_append]

theorem PhaseRun.soundStack (h : r.PhaseRun kind usesOf start declaring found events) :
    ∀ event ∈ events, ∀ stack, event = .enters stack → r.SoundStack stack := by
  cases h with
  | fails hclimb | ends hclimb => exact hclimb.soundStack
  | goesOn hclimb _ hagain => exact List.forall_mem_append.mpr ⟨hclimb.soundStack, hagain.soundStack⟩

theorem ScanRun.unique (h : r.ScanRun kind m target o onMethods onTypes)
    (h' : r.ScanRun kind m target o' onMethods' onTypes') :
    o = o' ∧ onMethods = onMethods' ∧ onTypes = onTypes' := by
  cases h <;> cases h' <;> grind [PhaseRun.unique]

/-- A run gives what the scan gives. -/
theorem ScanRun.eq_scan (h : r.ScanRun kind m target o onMethods onTypes) : o = r.scan m target kind := by
  cases h with
  | fails hmethods => rw [scan_eq, ← hmethods.eq_closestFrom, error_bind]
  | methods hmethods =>
      rw [scan_eq, ← hmethods.eq_closestFrom]
      rfl
  | types hmethods htypes =>
      rw [scan_eq, ← hmethods.eq_closestFrom, ← htypes.eq_closestFrom]
      rfl

/-- A scan finds the one policy on a method of the type from which it starts. -/
theorem OwnRun.scan_eq_some {p : Policy} {entered : List (List String)}
    (hown : r.OwnRun kind (TypeDeclaration.usesOn m.name) (r.startOf m target) (.ok [p]) entered) :
    r.scan m target kind = .ok (some p) :=
  (ScanRun.methods (.first hown)).eq_scan.symm

/-- A scan fails where the uses on a method of the type from which it starts cannot be expanded. -/
theorem OwnRun.scan_eq_error {e : AccessError} {entered : List (List String)}
    (hown : r.OwnRun kind (TypeDeclaration.usesOn m.name) (r.startOf m target) (.error e) entered) :
    r.scan m target kind = .error e :=
  (ScanRun.fails (.fails (.fails List.not_mem_nil hown))).eq_scan.symm

theorem exists_scanRun (r : Registry) (kind : PolicyKind) (m : MethodRef) (target : String) :
    ∃ o onMethods onTypes, r.ScanRun kind m target o onMethods onTypes := by
  obtain ⟨found, events, hmethods⟩ :=
    exists_phaseRun r kind (TypeDeclaration.usesOn m.name) (r.startOf m target) m.declaringType
  match found with
  | .error e => exact ⟨_, _, _, .fails hmethods⟩
  | .ok (p :: policies) => exact ⟨_, _, _, .methods hmethods⟩
  | .ok [] =>
      obtain ⟨found, events', htypes⟩ :=
        exists_phaseRun r kind TypeDeclaration.uses (r.startOf m target) m.declaringType
      exact ⟨_, _, _, .types hmethods htypes⟩

theorem ScanRun.nodup_visited (h : r.ScanRun kind m target o onMethods onTypes) :
    (SearchEvent.visited onMethods).Nodup ∧ (SearchEvent.visited onTypes).Nodup := by
  cases h with
  | fails hmethods | methods hmethods => exact ⟨hmethods.nodup_visited, List.nodup_nil⟩
  | types hmethods htypes => exact ⟨hmethods.nodup_visited, htypes.nodup_visited⟩

theorem ScanRun.soundStack (h : r.ScanRun kind m target o onMethods onTypes) :
    ∀ event ∈ onMethods ++ onTypes, ∀ stack, event = .enters stack → r.SoundStack stack := by
  rw [List.forall_mem_append]
  cases h with
  | fails hmethods | methods hmethods => exact ⟨hmethods.soundStack, List.forall_mem_nil _⟩
  | types hmethods htypes => exact ⟨hmethods.soundStack, htypes.soundStack⟩

/-- A scan comes to an end in every registry: it has a run, which is the only one and gives what the scan gives. Each
phase visits a type at most once, and the templates of a stack are different ones and not more than there are templates. -/
theorem scan_ends (r : Registry) (m : MethodRef) (target : String) (kind : PolicyKind) :
    ∃ onMethods onTypes, r.ScanRun kind m target (r.scan m target kind) onMethods onTypes ∧
      (∀ o onMethods' onTypes', r.ScanRun kind m target o onMethods' onTypes' →
        o = r.scan m target kind ∧ onMethods' = onMethods ∧ onTypes' = onTypes) ∧
      (SearchEvent.visited onMethods).Nodup ∧ (SearchEvent.visited onTypes).Nodup ∧
      ∀ stack, .enters stack ∈ onMethods ++ onTypes → stack.Nodup ∧ stack.length ≤ r.templates.size := by
  obtain ⟨o, onMethods, onTypes, hrun⟩ := exists_scanRun r kind m target
  obtain rfl := hrun.eq_scan
  obtain ⟨hmethods, htypes⟩ := hrun.nodup_visited
  refine ⟨onMethods, onTypes, hrun, fun o onMethods' onTypes' h => h.unique hrun, hmethods, htypes, ?bounded⟩
  case bounded =>
    intro stack hstack
    have hsound := hrun.soundStack _ hstack stack rfl
    exact ⟨hsound.nodup, hsound.length_le⟩

/-- A type extends itself, two types extend each other, one name is not registered, and two templates use each other.
The first phase visits each of the types once, and the second one ends with both templates in the stack. -/
theorem scan_ends_of_circles :
    let docs : TypeDeclaration := { name := "Docs", superclass := some "Docs", interfaces := ["Audited"] }
    let audited : TypeDeclaration :=
      { name := "Audited", kind := .interface, interfaces := ["Docs", "Unknown"], uses := [.template "Kept" ∅] }
    let kept : PolicyTemplate := ⟨"Kept", [.template "Logged" ∅]⟩
    let logged : PolicyTemplate := ⟨"Logged", [.template "Kept" ∅]⟩
    let r := (((({} : Registry).withTemplate kept).withTemplate logged).withType docs).withType audited
    ∃ onMethods onTypes,
      r.ScanRun .preFilter ⟨"Base", "read"⟩ "Docs" (misconfigured (.compositionCycle ["Kept", "Logged"] "Kept"))
        onMethods onTypes ∧
      SearchEvent.visited onMethods = ["Docs", "Audited", "Unknown", "Base"] ∧
      SearchEvent.visited onTypes = ["Docs", "Audited"] ∧
      (SearchEvent.visited onMethods).Nodup ∧ (SearchEvent.visited onTypes).Nodup ∧
      .enters ["Kept", "Logged"] ∈ onTypes ∧
      ∀ stack, .enters stack ∈ onMethods ++ onTypes → stack.Nodup ∧ stack.length ≤ 2 := by
  intro docs audited kept logged r
  have htypesOf (name : String) : r.types.get? name =
      if name = "Audited" then some audited else if name = "Docs" then some docs else none := by
    simp only [r, withType, Dict.get?_insert]
    rfl
  have htemplates (name : String) : r.templates.get? name =
      if name = "Logged" then some logged else if name = "Kept" then some kept else none := by
    simp only [r, withType, withTemplate, Dict.get?_insert]
    rfl
  have hdocs : r.types.get? "Docs" = some docs := htypesOf "Docs"
  have haudited : r.types.get? "Audited" = some audited := htypesOf "Audited"
  have hdocsAbove : r.supertypesOf "Docs" = ["Docs", "Audited"] := by
    rw [supertypesOf, hdocs]
    rfl
  have hauditedAbove : r.supertypesOf "Audited" = ["Docs", "Unknown"] := by
    rw [supertypesOf, haudited]
    rfl
  have hstart : r.startOf ⟨"Base", "read"⟩ "Docs" = "Docs" := by
    rw [startOf, Dict.contains, hdocs]
    rfl
  have hmethods : r.PhaseRun .preFilter (TypeDeclaration.usesOn "read") "Docs" "Base" (.ok [])
      [.visits "Docs", .visits "Audited", .visits "Unknown", .visits "Base"] := by
    have hclimb : r.ClimbRun .preFilter (TypeDeclaration.usesOn "read") [] ["Docs"]
        (.ok ([], ["Unknown", "Audited", "Docs"])) [.visits "Docs", .visits "Audited", .visits "Unknown"] := by
      refine .pass List.not_mem_nil (.registered hdocs .nil) (hdocsAbove ▸ .again (by decide) ?_)
      refine .pass (by decide) (.registered haudited .nil) (hauditedAbove ▸ .again (by decide) ?_)
      exact .unregistered (by decide) (htypesOf "Unknown")
    exact .goesOn hclimb (by decide) (.unregistered (by decide) (htypesOf "Base"))
  have htypes : r.PhaseRun .preFilter TypeDeclaration.uses "Docs" "Base"
      (misconfigured (.compositionCycle ["Kept", "Logged"] "Kept"))
      [.visits "Docs", .visits "Audited", .enters ["Kept"], .enters ["Kept", "Logged"]] := by
    have hown : r.OwnRun .preFilter TypeDeclaration.uses "Audited"
        (misconfigured (.compositionCycle ["Kept", "Logged"] "Kept")) [["Kept"], ["Kept", "Logged"]] :=
      .registered haudited (.inside (by decide) (htemplates "Kept") rfl
        (.inside (by decide) (htemplates "Logged") rfl (.circle (by decide))))
    have habove : r.ClimbRun .preFilter TypeDeclaration.uses ["Docs"] (r.supertypesOf "Docs")
        (misconfigured (.compositionCycle ["Kept", "Logged"] "Kept"))
        [.visits "Audited", .enters ["Kept"], .enters ["Kept", "Logged"]] :=
      hdocsAbove ▸ .again (by decide) (.fails (by decide) hown)
    exact .fails (.aboveFails List.not_mem_nil (.registered hdocs .nil) habove)
  have hscanRun : r.ScanRun .preFilter ⟨"Base", "read"⟩ "Docs" _ _ _ :=
    .types (by rw [hstart]; exact hmethods) (by rw [hstart]; exact htypes)
  obtain ⟨onMethods, onTypes, hrun, honly, hnodup, hnodup', hstacks⟩ :=
    scan_ends r ⟨"Base", "read"⟩ "Docs" .preFilter
  obtain ⟨hscan, rfl, rfl⟩ := honly _ _ _ hscanRun
  rw [← hscan] at hrun
  have hsize : r.templates.size = 2 := by decide +kernel
  rw [hsize] at hstacks
  exact ⟨_, _, hrun, rfl, rfl, hnodup, hnodup', by simp, hstacks⟩

end Scans

end Registry

end AccessControl
