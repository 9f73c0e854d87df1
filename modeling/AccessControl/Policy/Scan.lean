import AccessControl.Policy.Substitution

/-!
# Finding the policy of a method

The policy of a kind that governs a method is the closest one. From the type of the called object the search goes up
through the supertypes, and on each way up it ends at the first type with a policy on the method. Only where no method
has a policy the types themselves are searched in the same way. Policies that are equal count once; several distinct
ones are an ambiguity.
-/
namespace AccessControl

/-- A way to find the policy of a kind that governs a method called on an object of a type. -/
abbrev Scanner := MethodRef → String → PolicyKind → Outcome (Option Policy)

namespace Registry

/-- How many of some names have not been seen. -/
def unseen (names seen : List String) : Nat :=
  names.countP fun name => !decide (name ∈ seen)

theorem unseen_le {seen more : List String} (hsub : ∀ x ∈ seen, x ∈ more) (names : List String) :
    unseen names more ≤ unseen names seen := by
  unfold unseen
  refine List.countP_mono_left fun x _ h => ?_
  simp only [Bool.not_eq_true', decide_eq_false_iff_not] at h ⊢
  exact fun hx => h (hsub x hx)

/-- Seeing one more of the names leaves fewer unseen. -/
theorem unseen_lt {names seen more : List String} {name : String} (hmem : name ∈ names) (hnew : name ∉ seen)
    (hmore : name ∈ more) (hsub : ∀ x ∈ seen, x ∈ more) : unseen names more < unseen names seen := by
  induction names with
  | nil => simp at hmem
  | cons x rest ih =>
    have hrest := unseen_le hsub rest
    unfold unseen at *
    rcases List.mem_cons.1 hmem with rfl | hmem
    · simp [hnew, hmore]
      omega
    · have := ih hmem
      by_cases h1 : x ∈ seen
      · simp [h1, hsub x h1, this]
      · by_cases h2 : x ∈ more <;> simp [h1, h2] <;> omega

theorem mem_keys_of_get? {α : Type} {d : Dict α} {key : String} {value : α} (h : d.get? key = some value) :
    key ∈ d.keys := by
  obtain ⟨entries, sorted⟩ := d
  simp only [Dict.get?, Dict.keys] at *
  clear sorted
  induction entries with
  | nil => simp at h
  | cons e rest ih =>
    obtain ⟨k, v⟩ := e
    by_cases hk : key = k
    · simp [hk]
    · have : (key == k) = false := beq_false_of_ne hk
      simp only [List.lookup_cons, this] at h
      simp [ih h]

theorem unseen_keys_lt {α : Type} {d : Dict α} {seen more : List String} {name : String} {value : α}
    (h : d.get? name = some value) (hnew : ¬ name ∈ seen) (hmore : name ∈ more) (hsub : ∀ x ∈ seen, x ∈ more) :
    unseen d.keys more < unseen d.keys seen :=
  unseen_lt (mem_keys_of_get? h) hnew hmore hsub

/-- The policies of a kind that some uses stand for. Inside a template its placeholders have the values that were
given at its use, and `stack` holds the templates that are being expanded, the outermost first. -/
def expand (r : Registry) (kind : PolicyKind) (arguments : Dict String) (stack : List String)
    (uses : List PolicyUse) : Outcome (List Policy) :=
  match uses with
  | [] => .ok []
  | .direct p :: rest => do
    let first ← if p.kind = kind then (p.fill arguments).map ([·]) else .ok []
    let others ← expand r kind arguments stack rest
    .ok (first ++ others)
  | .template name values :: rest =>
    if _hs : name ∈ stack then misconfigured (.compositionCycle stack name)
    else
      match _ht : r.templates.get? name with
      | none => misconfigured (.unknownComposition name)
      | some t => do
        let values ← fillValues arguments values
        let inner ← expand r kind values (stack ++ [name]) t.uses
        let others ← expand r kind arguments stack rest
        .ok (inner ++ others)
termination_by (unseen r.templates.keys stack, uses.length)
decreasing_by
  · exact Prod.Lex.right _ (by simp)
  · exact Prod.Lex.left _ _ (unseen_keys_lt _ht _hs (by simp) (by simp +contextual))
  · exact Prod.Lex.right _ (by simp)

/-- The policies of a kind that some uses stand for. -/
def policies (r : Registry) (kind : PolicyKind) (uses : List PolicyUse) : Outcome (List Policy) :=
  r.expand kind ∅ [] uses

/-- The closest policies on the ways up from some types, with the types that were visited. Each type is visited once,
and `usesOf` are the uses of a type that count. -/
def closest (r : Registry) (kind : PolicyKind) (usesOf : TypeDeclaration → List PolicyUse)
    (visited types : List String) : Outcome (List Policy × List String) :=
  match types with
  | [] => .ok ([], visited)
  | name :: rest =>
    if _hv : name ∈ visited then closest r kind usesOf visited rest
    else
      match _hd : r.types.get? name with
      | none => closest r kind usesOf (name :: visited) rest
      | some d => do
        let found ← r.policies kind (usesOf d)
        if found.isEmpty then closest r kind usesOf (name :: visited) (d.supertypes ++ rest)
        else
          let (others, visited) ← closest r kind usesOf (name :: visited) rest
          .ok (found ++ others, visited)
termination_by (unseen r.types.keys visited, types.length)
decreasing_by
  · exact Prod.Lex.right _ (by simp)
  · have hle : unseen r.types.keys (name :: visited) ≤ unseen r.types.keys visited :=
      unseen_le (by simp +contextual) _
    rcases Nat.lt_or_eq_of_le hle with h | h
    · exact Prod.Lex.left _ _ h
    · rw [h]
      exact Prod.Lex.right _ (by simp)
  · exact Prod.Lex.left _ _ (unseen_keys_lt _hd _hv (by simp) (by simp +contextual))
  · exact Prod.Lex.left _ _ (unseen_keys_lt _hd _hv (by simp) (by simp +contextual))

/-- The closest policies from a type, or else from the type that declares the method. -/
def closestFrom (r : Registry) (kind : PolicyKind) (usesOf : TypeDeclaration → List PolicyUse)
    (start declaring : String) : Outcome (List Policy) := do
  let (found, visited) ← r.closest kind usesOf [] [start]
  if found.isEmpty && !visited.contains declaring then
    let (found, _) ← r.closest kind usesOf visited [declaring]
    .ok found
  else .ok found

/-- The one policy among some, if there are any; `element` is what they stand on. -/
def unique (element : String) (found : List Policy) : Outcome (Option Policy) :=
  match found.foldl (fun distinct p => if distinct.contains p then distinct else distinct ++ [p]) [] with
  | [] => .ok none
  | [p] => .ok (some p)
  | distinct => .error (.ambiguousPolicy element (distinct.map Policy.text))

/-- Finds the policy of a kind that governs a method called on an object of type `target`. -/
def scan (r : Registry) : Scanner := fun method target kind => do
  let start := if r.types.contains target then target else method.declaringType
  let found ← r.closestFrom kind (fun d => (d.methods.get? method.name).getD []) start method.declaringType
  if found.isEmpty then
    unique start (← r.closestFrom kind TypeDeclaration.uses start method.declaringType)
  else unique (start ++ "." ++ method.name) found

/-- A scanner of the registry as text. -/
def scannerText (r : Registry) : String :=
  "UniqueAnnotationScanner(" ++ toString r.types.size ++ " types)"

end Registry

end AccessControl
